import KeepGateway.Incidents.Aggregates
import KeepGateway.Lib.Transactions

/-!
# Splitting an incident

`split_incident` as its sequence of transactions, any of which may fail: the add step of the
destination, and after it the remove step of the source.
-/

namespace KeepGateway
namespace Incidents

open Transactions

/-- What a split is called with. -/
structure Split where
  alerts : LastAlerts
  now : Nat
  source : Nat
  destination : Nat
  fingerprints : List String

namespace Split

inductive Error where
  | http (status : Nat) (detail : String)
  | raised (failure : Failure)
  | interrupted
  deriving DecidableEq, Repr

/-- The reads and the commits of a split, and what is pushed in between. -/
inductive Stage where
  | findDestination
  | link
  | updateDestination
  | pushDestination
  | findSource
  | unlink
  | updateSource
  | pushSource
  deriving DecidableEq, Repr

/-- The tables, with the fingerprints that the add step links and the source that the remove
step has read. -/
structure State where
  db : Db
  new : List String
  row : Option Incident

/-- `if not incident: raise HTTPException(status_code=404, ..)` -/
def getIncident (db : Db) (id : Nat) : Except Error Incident :=
  match db.find id with
  | none => .error (.http 404 "Incident not found")
  | some row => .ok row

def raising (result : Except Failure Db) : Except Error Db :=
  result.mapError .raised

def perform (m : Split) (s : State) : Stage -> Except Error State
  | .findDestination => do
      let _ <- getIncident s.db m.destination
      return { s with new := s.db.newFingerprints m.destination m.fingerprints false }
  | .link => .ok { s with db := s.db.link m.destination s.new }
  | .updateDestination =>
      if s.new = [] then .ok s
      else do
        let db <- raising (updateAfterAdd m.alerts s.db m.destination s.new)
        return { s with db := db }
  | .pushDestination => .ok s
  | .findSource => do
      let row <- getIncident s.db m.source
      return { s with row := some row }
  | .unlink => .ok { s with db := s.db.unlink m.now m.source m.fingerprints }
  | .updateSource =>
      match s.row with
      | none => .ok s
      | some row => do
          let db <- raising (updateAfterRemoval m.alerts s.db m.source m.fingerprints row)
          return { s with db := db }
  | .pushSource => .ok s

def attempt (m : Split) (failsAt : Option Stage) (s : State) (stage : Stage) :
    Except Error State :=
  if failsAt = some stage then .error .interrupted else perform m s stage

def afterLink : List Stage :=
  [.updateDestination, .pushDestination, .findSource, .unlink, .updateSource, .pushSource]

def stages : List Stage :=
  .findDestination :: .link :: afterLink

/-- What is committed, and what ended the call if it does not return. -/
def splitIncident (m : Split) (failsAt : Option Stage) (db : Db) : Db × Option Error :=
  let (s, error) := inSequence (attempt m failsAt) { db := db, new := [], row := none } stages
  (s.db, error)

/-!
## What a split must keep
-/

/-- `alerts_count` of an incident is the number of its active links. -/
def CountsLinks (db : Db) (id : Nat) : Prop :=
  forall row, db.find id = some row -> row.alertsCount = (db.active id).length

/-- The links of fingerprints that are not in a list. -/
def unlisted (fingerprints : List String) (db : Db) : List Link :=
  db.links.filter fun l => l.fingerprint ∉ fingerprints

/-- What holds when a split returns. -/
structure Moves (m : Split) (before after : Db) : Prop where
  moved : forall f, f ∈ m.fingerprints -> f ∈ before.active m.source ->
    f ∈ after.active m.destination
  unlisted : unlisted m.fingerprints after = unlisted m.fingerprints before
  source : CountsLinks before m.source -> CountsLinks after m.source
  destination : CountsLinks before m.destination -> CountsLinks after m.destination

structure KeepsAlerts (m : Split) (before : Db) (result : Db × Option Error) : Prop where
  kept : forall f, f ∈ m.fingerprints ->
    f ∈ before.active m.source ∨ f ∈ before.active m.destination ->
      f ∈ result.1.active m.source ∨ f ∈ result.1.active m.destination
  moves : result.2 = none -> Moves m before result.1

/-- The severity of a last alert is one that `IncidentSeverity` does not have. -/
def unknownSeverity (alert : LastAlert) : Prop :=
  exists value, nonEmpty alert.severity = some value ∧
    forall severity, IncidentSeverity.ofValue value ≠ .ok severity

/-- An incident is split into itself, has one of the alerts, and the add step of the others does
not fail. -/
structure Harmful (m : Split) (db : Db) : Prop where
  same : m.source = m.destination
  found : (db.find m.source).isSome = true
  linked : exists f, f ∈ m.fingerprints ∧ f ∈ db.active m.source
  known : forall f, f ∈ m.fingerprints -> f ∉ db.active m.source ->
    ¬ unknownSeverity (m.alerts f)

/-!
## Alerts whose severity is known
-/

theorem getAlertsDataForIncident_isOk {alerts : LastAlerts} {fingerprints : List String} :
    (exists data, getAlertsDataForIncident alerts fingerprints = .ok data) <->
      forall f, f ∈ fingerprints -> ¬ unknownSeverity (alerts f) := by
  have hvalues : (exists data, getAlertsDataForIncident alerts fingerprints = .ok data) <->
      exists severities, ((fingerprints.dedup.map alerts).filterMap fun row =>
        nonEmpty row.severity).mapM IncidentSeverity.ofValue = .ok severities := by
    unfold getAlertsDataForIncident
    constructor
    · intro h
      rcases h with ⟨data, hdata⟩
      rcases bind_eq_ok.mp hdata with ⟨severities, hseverities, -⟩
      exact ⟨severities, hseverities⟩
    · intro h
      rcases h with ⟨severities, hseverities⟩
      exact ⟨_, bind_eq_ok.mpr ⟨severities, hseverities, rfl⟩⟩
  rw [hvalues, mapM_isOk]
  constructor
  · intro h f hf hunknown
    rcases hunknown with ⟨value, hvalue, hnone⟩
    have hrow := List.mem_map_of_mem (f := alerts) (List.mem_dedup.mpr hf)
    rcases h value (List.mem_filterMap.mpr ⟨alerts f, hrow, hvalue⟩) with ⟨severity, hseverity⟩
    exact hnone severity hseverity
  · intro h value hvalue
    rcases List.mem_filterMap.mp hvalue with ⟨row, hrow, hnonEmpty⟩
    rcases List.mem_map.mp hrow with ⟨f, hf, heq⟩
    refine Classical.byContradiction fun hnone => h f (List.mem_dedup.mp hf) ?_
    rw [← heq] at hnonEmpty
    exact ⟨value, hnonEmpty, fun severity hseverity => hnone ⟨severity, hseverity⟩⟩

/-!
## What a stage does
-/

section Stages

variable {m : Split} {s s' : State}

theorem perform_of_attempt {failsAt : Option Stage} {stage : Stage}
    (h : attempt m failsAt s stage = .ok s') : perform m s stage = .ok s' := by
  unfold attempt at h
  split at h
  · cases h
  · exact h

theorem raising_ok {result : Except Failure Db} {db : Db} (h : raising result = .ok db) :
    result = .ok db := by
  cases result with
  | ok a =>
      cases h
      rfl
  | error e => cases h

theorem getIncident_ok {db : Db} {id : Nat} {row : Incident} (h : getIncident db id = .ok row) :
    db.find id = some row := by
  unfold getIncident at h
  split at h
  · cases h
  · rename_i found hfound
    cases h
    exact hfound

theorem updateAfterAdd_active {alerts : LastAlerts} {db db' : Db} {id : Nat} {new : List String}
    (h : updateAfterAdd alerts db id new = .ok db') : db'.active = db.active := by
  rcases updateAfterAdd_writes h with heq | ⟨aggregates, heq⟩
  · rw [heq]
  · rw [heq]
    rfl

theorem updateAfterRemoval_active {alerts : LastAlerts} {db db' : Db} {id : Nat}
    {fingerprints : List String} {row : Incident}
    (h : updateAfterRemoval alerts db id fingerprints row = .ok db') :
    db'.active = db.active := by
  rcases updateAfterRemoval_writes h with ⟨aggregates, heq⟩
  rw [heq]
  rfl

/-- After the links are made, only the remove step unlinks. -/
theorem perform_active {stage : Stage} (hstage : stage ∈ afterLink)
    (h : perform m s stage = .ok s') :
    s'.db.active = s.db.active ∨
      s'.db.active = (s.db.unlink m.now m.source m.fingerprints).active := by
  cases stage with
  | findDestination => simp [afterLink] at hstage
  | link => simp [afterLink] at hstage
  | updateDestination =>
      simp only [perform] at h
      split at h
      · cases h
        exact .inl rfl
      · rcases bind_eq_ok.mp h with ⟨db, hdb, h⟩
        cases h
        exact .inl (updateAfterAdd_active (raising_ok hdb))
  | pushDestination =>
      cases h
      exact .inl rfl
  | findSource =>
      rcases bind_eq_ok.mp h with ⟨row, -, h⟩
      cases h
      exact .inl rfl
  | unlink =>
      cases h
      exact .inr rfl
  | updateSource =>
      simp only [perform] at h
      split at h
      · cases h
        exact .inl rfl
      · rcases bind_eq_ok.mp h with ⟨db, hdb, h⟩
        cases h
        exact .inl (updateAfterRemoval_active (raising_ok hdb))
  | pushSource =>
      cases h
      exact .inl rfl

/-- What the destination has after the links are made, it keeps as long as it is not the source. -/
theorem perform_keeps {stage : Stage} {f : String} (hne : m.source ≠ m.destination)
    (hstage : stage ∈ afterLink) (hf : f ∈ s.db.active m.destination)
    (h : perform m s stage = .ok s') : f ∈ s'.db.active m.destination := by
  rcases perform_active hstage h with heq | heq
  · rw [heq]
    exact hf
  · rw [heq, Db.active_unlink, List.mem_filter]
    exact ⟨hf, decide_eq_true fun hsource => hne hsource.1⟩

end Stages

/-!
## Where a split stops
-/

section Runs

variable {m : Split} {db : Db}

/-- The state after the links of the destination are committed. -/
def linkedState (m : Split) (db : Db) : State :=
  let new := db.newFingerprints m.destination m.fingerprints false
  { db := db.link m.destination new, new := new, row := none }

theorem mem_new {id : Nat} {fingerprints : List String} {f : String} :
    f ∈ db.newFingerprints id fingerprints false <-> f ∈ fingerprints ∧ f ∉ db.active id := by
  unfold Db.newFingerprints
  simp [List.mem_filter]

theorem linkedState_active {f : String} (h : f ∈ m.fingerprints) :
    f ∈ (linkedState m db).db.active m.destination := by
  unfold linkedState
  rw [Db.active_link, if_pos rfl, List.mem_append]
  rcases Classical.em (f ∈ db.active m.destination) with hactive | hactive
  · exact .inl hactive
  · exact .inr (mem_new.mpr ⟨h, hactive⟩)

theorem attempt_none (s : State) (stage : Stage) : attempt m none s stage = perform m s stage :=
  if_neg (by simp)

/-- A split stops before it has committed anything, or goes on from the links that it made. -/
theorem splitIncident_cases (m : Split) (failsAt : Option Stage) (db : Db) :
    ((failsAt = none -> db.find m.destination = none) ∧
        exists error, splitIncident m failsAt db = (db, some error)) ∨
      ((db.find m.destination).isSome = true ∧
        splitIncident m failsAt db =
          ((inSequence (attempt m failsAt) (linkedState m db) afterLink).1.db,
            (inSequence (attempt m failsAt) (linkedState m db) afterLink).2)) := by
  unfold splitIncident stages
  cases hfind : attempt m failsAt { db := db, new := [], row := none } .findDestination with
  | error error =>
      rw [inSequence_of_error hfind]
      refine .inl ⟨fun hnone => ?_, error, rfl⟩
      rw [hnone, attempt_none] at hfind
      simp only [perform, getIncident] at hfind
      split at hfind
      · assumption
      · cases hfind
  | ok found =>
      rw [inSequence_of_ok hfind]
      rcases bind_eq_ok.mp (perform_of_attempt hfind) with ⟨row, hrow, heq⟩
      cases heq
      cases hlink : attempt m failsAt
          { db := db, new := db.newFingerprints m.destination m.fingerprints false, row := none }
          .link with
      | error error =>
          rw [inSequence_of_error hlink]
          refine .inl ⟨fun hnone => ?_, error, rfl⟩
          rw [hnone, attempt_none] at hlink
          cases hlink
      | ok linked =>
          rw [inSequence_of_ok hlink]
          cases perform_of_attempt hlink
          exact .inr ⟨by rw [getIncident_ok hrow]; rfl, rfl⟩

theorem kept_of_ne (hne : m.source ≠ m.destination) (failsAt : Option Stage) {f : String}
    (hlisted : f ∈ m.fingerprints)
    (hlinked : f ∈ db.active m.source ∨ f ∈ db.active m.destination) :
    f ∈ (splitIncident m failsAt db).1.active m.source ∨
      f ∈ (splitIncident m failsAt db).1.active m.destination := by
  rcases splitIncident_cases m failsAt db with ⟨-, error, heq⟩ | ⟨-, heq⟩
  · rw [heq]
    exact hlinked
  · rw [heq]
    refine .inr ?_
    exact @inSequence_invariant _ _ _ (attempt m failsAt)
      (fun s => f ∈ s.db.active m.destination) _ _ (linkedState_active hlisted)
      fun s stage s' hstage hf h => perform_keeps hne hstage hf (perform_of_attempt h)

/-- A split that ends before it unlinks leaves the links of the destination. -/
theorem kept_of_blocked
    (hblocked : db.find m.destination = none ∨
      ¬ exists data, getAlertsDataForIncident m.alerts
        (db.newFingerprints m.destination m.fingerprints false) = .ok data)
    (failsAt : Option Stage) {f : String} (hlinked : f ∈ db.active m.destination) :
    f ∈ (splitIncident m failsAt db).1.active m.destination ∧
      (splitIncident m failsAt db).2 ≠ none := by
  rcases splitIncident_cases m failsAt db with ⟨-, error, heq⟩ | ⟨hfind, heq⟩
  · rw [heq]
    exact ⟨hlinked, by simp⟩
  · rcases hblocked with hnone | hdata
    · rw [hnone] at hfind
      cases hfind
    · have hnew : (linkedState m db).new ≠ [] := by
        intro hnil
        have hempty : db.newFingerprints m.destination m.fingerprints false = [] := hnil
        rw [hempty] at hdata
        exact hdata ⟨_, rfl⟩
      have herror : exists error,
          attempt m failsAt (linkedState m db) .updateDestination = .error error := by
        cases hresult : attempt m failsAt (linkedState m db) .updateDestination with
        | error error => exact ⟨error, rfl⟩
        | ok s' =>
            have hperform := perform_of_attempt hresult
            simp only [perform, if_neg hnew] at hperform
            rcases bind_eq_ok.mp hperform with ⟨db', hdb', -⟩
            rcases bind_eq_ok.mp (raising_ok hdb') with ⟨data, hok, -⟩
            exact absurd ⟨data, hok⟩ hdata
      rcases herror with ⟨error, herror⟩
      rw [heq]
      unfold afterLink
      rw [inSequence_of_error herror]
      refine ⟨?_, by simp⟩
      unfold linkedState
      rw [Db.active_link, if_pos rfl]
      exact List.mem_append_left _ hlinked

/-- A split that returns is the add step and after it the remove step. -/
theorem splitIncident_returns {failsAt : Option Stage}
    (h : (splitIncident m failsAt db).2 = none) :
    exists destination added source deleted,
      db.find m.destination = some destination ∧
        addAlertsToIncident m.alerts db m.destination m.fingerprints false = .ok added ∧
        added.find m.source = some source ∧
        removeAlertsToIncidentByIncidentId m.alerts m.now added m.source m.fingerprints =
          .ok ((splitIncident m failsAt db).1, deleted) := by
  have hend : (inSequence (attempt m failsAt) { db := db, new := [], row := none } stages).2 =
    none := h
  have hrun := foldlM_of_inSequence hend
  have hleft : (splitIncident m failsAt db).1 = (inSequence (attempt m failsAt)
    { db := db, new := [], row := none } stages).1.db := rfl
  rw [hleft]
  generalize (inSequence (attempt m failsAt) { db := db, new := [], row := none } stages).1 =
    final at hrun ⊢
  unfold stages afterLink at hrun
  simp only [List.foldlM_cons, List.foldlM_nil] at hrun
  rcases bind_eq_ok.mp hrun with ⟨found, hfound, hrun⟩
  rcases bind_eq_ok.mp hrun with ⟨linked, hlinked, hrun⟩
  rcases bind_eq_ok.mp hrun with ⟨updated, hupdated, hrun⟩
  rcases bind_eq_ok.mp hrun with ⟨pushed, hpushed, hrun⟩
  rcases bind_eq_ok.mp hrun with ⟨read, hread, hrun⟩
  rcases bind_eq_ok.mp hrun with ⟨unlinked, hunlinked, hrun⟩
  rcases bind_eq_ok.mp hrun with ⟨recounted, hrecounted, hrun⟩
  rcases bind_eq_ok.mp hrun with ⟨ended, hended, hrun⟩
  cases hrun
  rcases bind_eq_ok.mp (perform_of_attempt hfound) with ⟨destination, hdestination, heq⟩
  cases heq
  cases perform_of_attempt hlinked
  cases perform_of_attempt hpushed
  rcases bind_eq_ok.mp (perform_of_attempt hread) with ⟨source, hsource, heq⟩
  cases heq
  cases perform_of_attempt hunlinked
  cases perform_of_attempt hended
  rcases bind_eq_ok.mp (perform_of_attempt hrecounted) with ⟨last, hlast, heq⟩
  cases heq
  refine ⟨destination, updated.db, source,
    some ((updated.db.active m.source).countP fun f => f ∈ m.fingerprints),
    getIncident_ok hdestination, ?_, getIncident_ok hsource, ?_⟩
  · have hperform := perform_of_attempt hupdated
    simp only [perform] at hperform
    unfold addAlertsToIncident
    split at hperform
    · rename_i hnil
      cases hperform
      simp only [hnil, if_true]
      unfold Db.link
      rw [List.map_nil, List.append_nil]
    · rename_i hnew
      rcases bind_eq_ok.mp hperform with ⟨added, hadded, heq⟩
      cases heq
      simp only [if_neg hnew]
      exact raising_ok hadded
  · unfold removeAlertsToIncidentByIncidentId
    rw [getIncident_ok hsource]
    exact bind_eq_ok.mpr ⟨last, raising_ok hlast, rfl⟩

end Runs

/-!
## What the two steps leave
-/

theorem find_setAggregates_ne {db : Db} {id other : Nat} (hne : id ≠ other) (a : Aggregates) :
    (db.setAggregates id a).find other = db.find other := by
  have hcomp : ((fun row : Incident => row.id == other) ∘
      fun row => if row.id = id then row.setAggregates a else row) =
        fun row : Incident => row.id == other := by
    funext row
    simp only [Function.comp_apply]
    split
    · rw [Incident.setAggregates_id]
    · rfl
  unfold Db.setAggregates Db.update Db.find
  rw [List.find?_map, hcomp]
  cases hfind : db.incidents.find? fun row => row.id == other with
  | none => rfl
  | some row =>
      have hid := List.find?_some hfind
      have hrow : row.id ≠ id := fun h => hne (h.symm.trans (beq_iff_eq.mp hid))
      rw [Option.map_some, if_neg hrow]

theorem unlisted_link (db : Db) (id : Nat) {fingerprints new : List String}
    (hnew : forall f, f ∈ new -> f ∈ fingerprints) :
    unlisted fingerprints (db.link id new) = unlisted fingerprints db := by
  unfold unlisted Db.link
  rw [List.filter_append]
  refine List.append_right_eq_self.mpr (List.filter_eq_nil_iff.mpr fun l hl => ?_)
  rcases List.mem_map.mp hl with ⟨f, hf, heq⟩
  rw [← heq, decide_eq_true_iff]
  exact fun hnot => hnot (hnew f hf)

theorem unlisted_unlink (db : Db) (now id : Nat) (fingerprints : List String) :
    unlisted fingerprints (db.unlink now id fingerprints) = unlisted fingerprints db := by
  have hcomp : ((fun l : Link => decide (l.fingerprint ∉ fingerprints)) ∘
      Link.unlink now id fingerprints) =
        fun l : Link => decide (l.fingerprint ∉ fingerprints) := by
    funext l
    rw [Function.comp_apply, Link.unlink_fingerprint]
  unfold unlisted Db.unlink
  rw [List.filter_map, hcomp]
  refine (List.map_congr_left fun l hl => ?_).trans (List.map_id _)
  have hnot := of_decide_eq_true (List.mem_filter.mp hl).2
  unfold Link.unlink
  rw [if_neg fun hguard => hnot hguard.2.2]
  rfl

/-- What a step leaves of an incident that it is not about. -/
structure OthersKept (id : Nat) (before after : Db) : Prop where
  active : forall other, id ≠ other -> after.active other = before.active other
  find : forall other, id ≠ other -> after.find other = before.find other

theorem OthersKept.countsLinks {id other : Nat} {before after : Db}
    (h : OthersKept id before after) (hne : id ≠ other) (hcounts : CountsLinks before other) :
    CountsLinks after other := by
  intro row hrow
  rw [h.find other hne] at hrow
  rw [h.active other hne]
  exact hcounts row hrow

section Steps

variable {alerts : LastAlerts} {id : Nat} {fingerprints : List String}

/-- What the add step leaves of the incident that it is about. -/
structure Added (id : Nat) (fingerprints : List String) (before after : Db) : Prop where
  listed : forall f, f ∈ fingerprints -> f ∈ after.active id
  unlisted : unlisted fingerprints after = unlisted fingerprints before
  counts : CountsLinks before id -> CountsLinks after id
  others : OthersKept id before after

theorem added_of_ok {db after : Db}
    (h : addAlertsToIncident alerts db id fingerprints false = .ok after) :
    Added id fingerprints db after := by
  unfold addAlertsToIncident at h
  simp only at h
  split at h
  · rename_i hnil
    cases h
    refine ⟨fun f hf => ?_, rfl, fun hcounts => hcounts, fun _ _ => rfl, fun _ _ => rfl⟩
    refine Classical.byContradiction fun hnot => ?_
    have hnew : f ∈ db.newFingerprints id fingerprints false := mem_new.mpr ⟨hf, hnot⟩
    rw [hnil] at hnew
    cases hnew
  · have hactive := updateAfterAdd_active h
    have hlisted : forall f, f ∈ fingerprints -> f ∈ after.active id := by
      intro f hf
      rw [hactive, Db.active_link, if_pos rfl, List.mem_append]
      rcases Classical.em (f ∈ db.active id) with hlinked | hlinked
      · exact .inl hlinked
      · exact .inr (mem_new.mpr ⟨hf, hlinked⟩)
    have hunlisted := unlisted_link db id
      fun f hf => ((@mem_new db id fingerprints f).mp hf).1
    have hothers : forall other, id ≠ other -> after.active other = db.active other := by
      intro other hne
      rw [hactive, Db.active_link, if_neg hne]
    unfold updateAfterAdd at h
    rcases bind_eq_ok.mp h with ⟨data, -, h⟩
    split at h
    · rename_i hnone
      cases h
      refine ⟨hlisted, hunlisted, fun _ row hrow => ?_, hothers, fun _ _ => rfl⟩
      rw [hnone] at hrow
      cases hrow
    · rename_i found hfound
      cases h
      refine ⟨hlisted, hunlisted, fun _ row hrow => ?_, hothers, fun other hne => ?_⟩
      · rw [Db.find_setAggregates hfound] at hrow
        cases hrow
        rfl
      · rw [find_setAggregates_ne hne]
        rfl

/-- What the remove step leaves. -/
structure Removed (id : Nat) (fingerprints : List String) (before after : Db) : Prop where
  unlisted : unlisted fingerprints after = unlisted fingerprints before
  counts : CountsLinks after id
  others : OthersKept id before after

theorem removed_of_ok {now : Nat} {db after : Db} {row : Incident} {deleted : Option Nat}
    (hfind : db.find id = some row)
    (h : removeAlertsToIncidentByIncidentId alerts now db id fingerprints =
      .ok (after, deleted)) : Removed id fingerprints db after := by
  rcases removeAlerts_ok hfind h with ⟨hempty, data, -, hafter⟩
  rw [hafter]
  refine ⟨unlisted_unlink db now id fingerprints, fun found hfound => ?_, ?_, ?_⟩
  · have hunlinked : (db.unlink now id fingerprints).find id = some row := hfind
    rw [Db.find_setAggregates hunlinked] at hfound
    cases hfound
    rw [Db.active_setAggregates, hempty]
    rfl
  · intro other hne
    rw [Db.active_setAggregates, Db.active_unlink]
    refine List.filter_eq_self.mpr fun f _ => decide_eq_true fun hboth => hne hboth.1
  · intro other hne
    rw [find_setAggregates_ne hne]
    rfl

end Steps

/-!
## The condition
-/

section Condition

variable {m : Split} {db : Db}

theorem moves_of_returns (hharmless : ¬ Harmful m db) {failsAt : Option Stage}
    (h : (splitIncident m failsAt db).2 = none) : Moves m db (splitIncident m failsAt db).1 := by
  rcases splitIncident_returns h with
    ⟨destination, added, source, deleted, hdestination, hadd, hsource, hremove⟩
  have hadded := added_of_ok hadd
  have hremoved := removed_of_ok hsource hremove
  refine ⟨?_, hremoved.unlisted.trans hadded.unlisted, fun _ => hremoved.counts, ?_⟩
  · intro f hf hlinked
    rcases Classical.em (m.source = m.destination) with hsame | hne
    · refine absurd ⟨hsame, ?_, ⟨f, hf, hlinked⟩, ?_⟩ hharmless
      · rw [hsame, hdestination]
        rfl
      · have hdata : exists data, getAlertsDataForIncident m.alerts
            (db.newFingerprints m.destination m.fingerprints false) = .ok data := by
          unfold addAlertsToIncident at hadd
          simp only at hadd
          split at hadd
          · rename_i hnil
            rw [hnil]
            exact ⟨_, rfl⟩
          · rcases bind_eq_ok.mp hadd with ⟨data, hdata, -⟩
            exact ⟨data, hdata⟩
        intro other hother hnot
        rw [hsame] at hnot
        exact getAlertsDataForIncident_isOk.mp hdata other (mem_new.mpr ⟨hother, hnot⟩)
    · rw [hremoved.others.active _ hne]
      exact hadded.listed f hf
  · intro hcounts
    rcases Classical.em (m.source = m.destination) with hsame | hne
    · rw [← hsame]
      exact hremoved.counts
    · exact hremoved.others.countsLinks hne (hadded.counts hcounts)

theorem keepsAlerts_of_not_harmful (hharmless : ¬ Harmful m db) (failsAt : Option Stage) :
    KeepsAlerts m db (splitIncident m failsAt db) := by
  refine ⟨fun f hf hlinked => ?_, moves_of_returns hharmless⟩
  rcases Classical.em (m.source = m.destination) with hsame | hne
  · have hactive : f ∈ db.active m.destination := by
      rcases hlinked with hsource | hdestination
      · exact hsame ▸ hsource
      · exact hdestination
    have hblocked : db.find m.destination = none ∨
        ¬ exists data, getAlertsDataForIncident m.alerts
          (db.newFingerprints m.destination m.fingerprints false) = .ok data := by
      refine Classical.byContradiction fun hboth => hharmless ⟨hsame, ?_, ⟨f, hf, ?_⟩, ?_⟩
      · rw [hsame]
        exact Option.isSome_iff_ne_none.mpr fun hnone => hboth (.inl hnone)
      · rw [hsame]
        exact hactive
      · intro other hother hnot
        have hdata := not_not.mp fun hdata => hboth (.inr hdata)
        rw [hsame] at hnot
        exact getAlertsDataForIncident_isOk.mp hdata other (mem_new.mpr ⟨hother, hnot⟩)
    exact .inr (kept_of_blocked hblocked failsAt hactive).1
  · exact kept_of_ne hne failsAt hf hlinked

/-- The add step of a harmful split succeeds. -/
theorem updateDestination_of_harmful (h : Harmful m db) :
    exists updated row, perform m (linkedState m db) .updateDestination = .ok updated ∧
      updated.db.find m.source = some row := by
  rcases Option.isSome_iff_exists.mp h.found with ⟨row, hrow⟩
  simp only [perform]
  split
  · exact ⟨linkedState m db, row, rfl, hrow⟩
  · have hknown : forall f, f ∈ (linkedState m db).new -> ¬ unknownSeverity (m.alerts f) := by
      intro f hf
      rcases mem_new.mp hf with ⟨hlisted, hnot⟩
      rw [← h.same] at hnot
      exact h.known f hlisted hnot
    rcases getAlertsDataForIncident_isOk.mpr hknown with ⟨data, hdata⟩
    have hfind : (linkedState m db).db.find m.destination = some row := by
      rw [← h.same]
      exact hrow
    unfold updateAfterAdd
    rw [hdata, hfind, h.same]
    exact ⟨_, _, rfl, Db.find_setAggregates hfind _⟩

/-- A harmful split unlinks what it was to keep. -/
theorem lost_of_harmful {f : String} (h : Harmful m db) (hf : f ∈ m.fingerprints) :
    f ∉ (splitIncident m none db).1.active m.destination := by
  rcases updateDestination_of_harmful h with ⟨updated, row, hupdated, hrow⟩
  rcases splitIncident_cases m none db with ⟨hnone, -⟩ | ⟨-, heq⟩
  · have hfound := h.found
    rw [h.same, hnone rfl] at hfound
    cases hfound
  · rw [heq, ← h.same]
    unfold afterLink
    rw [← attempt_none] at hupdated
    have hpush : attempt m none updated .pushDestination = .ok updated := attempt_none _ _
    have hread : attempt m none updated .findSource = .ok { updated with row := some row } := by
      rw [attempt_none]
      simp only [perform, getIncident, hrow]
      rfl
    have hunlink := @attempt_none m { updated with row := some row } .unlink
    rw [inSequence_of_ok hupdated, inSequence_of_ok hpush, inSequence_of_ok hread,
      inSequence_of_ok hunlink]
    have hgone : f ∉ (updated.db.unlink m.now m.source m.fingerprints).active m.source := by
      rw [Db.active_unlink, List.mem_filter, decide_eq_true_iff]
      exact fun hmem => hmem.2 ⟨rfl, hf⟩
    refine @inSequence_invariant _ _ _ (attempt m none)
      (fun s => f ∉ s.db.active m.source) _ _ hgone ?_
    intro s stage s' hstage hnot hs'
    have hlater : stage ∈ afterLink := by
      rcases List.mem_cons.mp hstage with heq | hstage
      · simp [heq, afterLink]
      · simp [List.mem_singleton.mp hstage, afterLink]
    rcases perform_active hlater (perform_of_attempt hs') with hsame | hsame
    · rw [hsame]
      exact hnot
    · rw [hsame, Db.active_unlink]
      exact fun hmem => hnot (List.mem_of_mem_filter hmem)

/-- A split loses no alert, wherever it fails, unless it is harmful. -/
theorem keepsAlerts_iff :
    (forall failsAt, KeepsAlerts m db (splitIncident m failsAt db)) <-> ¬ Harmful m db := by
  refine ⟨fun h hharmful => ?_, keepsAlerts_of_not_harmful⟩
  rcases hharmful.linked with ⟨f, hf, hlinked⟩
  have hlost := lost_of_harmful hharmful hf
  rcases (h none).kept f hf (.inl hlinked) with hsource | hdestination
  · rw [hharmful.same] at hsource
    exact hlost hsource
  · exact hlost hdestination

end Condition

section Runs

/-- An incident with one alert. -/
def oneAlert : Db where
  links := [⟨1, "a", none⟩]
  incidents := [⟨1, .firing, none, none, 1, false, 1, [], []⟩]
  primaryKey := List.nodup_singleton _

def intoItself : Split where
  alerts := fun _ => ⟨none, "grafana", none⟩
  now := 5
  source := 1
  destination := 1
  fingerprints := ["a"]

/-- The alert is linked to no incident, and the split returns. -/
theorem intoItself_not_keepsAlerts :
    (splitIncident intoItself none oneAlert).2 = none ∧
      ¬ KeepsAlerts intoItself oneAlert (splitIncident intoItself none oneAlert) := by
  have hlost : "a" ∉ (splitIncident intoItself none oneAlert).1.active 1 := by decide
  refine ⟨by decide, fun h => ?_⟩
  rcases h.kept "a" List.mem_cons_self (.inl (by decide)) with hsource | hdestination
  · exact hlost hsource
  · exact hlost hdestination

end Runs

end Split
end Incidents
end KeepGateway
