import KeepGateway.Incidents.CurrentAlerts

/-!
# The first and the last alert of an incident

The group that the query for an edge takes, by its fingerprint, and when all three queries depend
on the current alerts.
-/

namespace KeepGateway
namespace Incidents

open Rows

/-!
## Times
-/

/-- The edge of a group depends on the times in it, not on how often they are there. -/
theorem Direction.of_congr {direction : Direction} {times others : List Nat}
    (h : forall time, time ∈ times <-> time ∈ others) :
    direction.of times = direction.of others := by
  cases direction with
  | min =>
      have hmin : times.min? = others.min? := by
        apply Option.ext
        intro time
        rw [List.min?_eq_some_iff, List.min?_eq_some_iff, h]
        exact and_congr_right fun _ => forall_congr' fun b => imp_congr (h b) Iff.rfl
      exact congrArg (fun time => time.getD 0) hmin
  | max =>
      have hmax : times.max? = others.max? := by
        apply Option.ext
        intro time
        rw [List.max?_eq_some_iff, List.max?_eq_some_iff, h]
        exact and_congr_right fun _ => forall_congr' fun b => imp_congr (h b) Iff.rfl
      exact congrArg (fun time => time.getD 0) hmax

/-!
## Groups
-/

namespace Tables

variable {tables : Tables} {incidentId : Nat}

theorem mem_edgeRows {row : EdgeRow} :
    row ∈ edgeRows tables incidentId <->
      row.alert ∈ tables.alerts ∧
        (row.link ∈ tables.links ∧ row.link.fingerprint = row.alert.fingerprint ∧
          row.link.incident = incidentId) ∧
        row.lastAlert = tables.lastAlertOf row.alert.fingerprint := by
  unfold edgeRows
  constructor
  · intro h
    rcases List.mem_flatMap.mp h with ⟨alert, halert, hrow⟩
    rcases List.mem_map.mp hrow with ⟨link, hlink, heq⟩
    rcases List.mem_filter.mp hlink with ⟨hmem, htest⟩
    rcases Bool.and_eq_true_iff.mp htest with ⟨hfingerprint, hincident⟩
    rw [← heq]
    exact ⟨halert, ⟨hmem, beq_iff_eq.mp hfingerprint, beq_iff_eq.mp hincident⟩, rfl⟩
  · intro h
    rcases h with ⟨halert, ⟨hlink, hfingerprint, hincident⟩, hlast⟩
    apply List.mem_flatMap.mpr
    refine ⟨row.alert, halert, List.mem_map.mpr ⟨row.link, List.mem_filter.mpr ⟨hlink, ?_⟩, ?_⟩⟩
    · rw [hfingerprint, hincident, beq_self_eq_true, beq_self_eq_true, Bool.true_and]
    · rw [← hlast]

theorem isLinked_iff {fingerprint : String} :
    tables.isLinked incidentId fingerprint = true <->
      exists link, link ∈ tables.links ∧ link.fingerprint = fingerprint ∧
        link.incident = incidentId := by
  unfold isLinked
  rw [List.any_eq_true]
  apply exists_congr
  intro link
  rw [Bool.and_eq_true, beq_iff_eq, beq_iff_eq]

/-- All rows of a fingerprint have its override. -/
theorem enrichedStatus_eq {row : EdgeRow} (h : row ∈ edgeRows tables incidentId) :
    row.enrichedStatus = tables.override row.alert.fingerprint := by
  rcases mem_edgeRows.mp h with ⟨_, _, hlast⟩
  unfold EdgeRow.enrichedStatus override
  rw [hlast]

theorem mem_fingerprints {p : String -> Bool} {fingerprint : String} :
    fingerprint ∈ tables.fingerprints p <->
      (exists alert, alert ∈ tables.alerts ∧ alert.fingerprint = fingerprint) ∧
        p fingerprint = true := by
  unfold fingerprints
  rw [List.mem_dedup, List.mem_filter, List.mem_map]

/-- The rows are grouped by fingerprint, with a group for each one that is linked or was. -/
theorem edgeGroups_eq :
    edgeGroups tables incidentId =
      (tables.fingerprints (tables.isLinked incidentId)).map (tables.rowsOf incidentId) := by
  let key : String -> String × Option String := fun f => (f, tables.override f)
  have hinjective : Function.Injective key := fun f g h => congrArg Prod.fst h
  have hkeys : (edgeRows tables incidentId).map (fun row =>
      (row.alert.fingerprint, row.enrichedStatus)) =
      tables.alerts.flatMap fun alert => (tables.links.filter fun link =>
        link.fingerprint == alert.fingerprint && link.incident == incidentId).map
          fun _ => key alert.fingerprint := by
    unfold edgeRows
    rw [List.map_flatMap]
    apply List.flatMap_congr
    intro alert _
    rw [List.map_map]
    rfl
  have hlinked : (tables.alerts.filter fun alert => !(tables.links.filter fun link =>
      link.fingerprint == alert.fingerprint && link.incident == incidentId).isEmpty).map
        (fun alert => key alert.fingerprint) =
      ((tables.alerts.map AlertRow.fingerprint).filter (tables.isLinked incidentId)).map key := by
    rw [List.filter_map, List.map_map]
    have hfilter : tables.alerts.filter (fun alert => !(tables.links.filter fun link =>
        link.fingerprint == alert.fingerprint && link.incident == incidentId).isEmpty) =
        tables.alerts.filter (tables.isLinked incidentId ∘ AlertRow.fingerprint) := by
      apply List.filter_congr
      intro alert _
      apply Bool.eq_iff_iff.mpr
      show _ <-> tables.links.any _ = true
      rw [Bool.not_eq_true', List.isEmpty_eq_false_iff, ne_eq, List.filter_eq_nil_iff,
        List.any_eq_true]
      push Not
      rfl
    rw [hfilter]
    rfl
  unfold edgeGroups groupBy
  rw [hkeys, dedup_flatMap_const, hlinked, List.dedup_map_of_injective hinjective, List.map_map]
  apply List.map_congr_left
  intro f _
  apply List.filter_congr
  intro row hrow
  show decide ((row.alert.fingerprint, row.enrichedStatus) = key f) = _
  rw [enrichedStatus_eq hrow]
  exact decide_eq_decide.mpr hinjective.eq_iff

/-- The time of a group is the one of its fingerprint, deleted links or not. -/
theorem edgeTime_rowsOf {direction : Direction} {fingerprint : String}
    (h : tables.isLinked incidentId fingerprint = true) :
    edgeTime direction (tables.rowsOf incidentId fingerprint) =
      tables.time direction fingerprint := by
  apply Direction.of_congr
  intro time
  constructor
  · intro htime
    rcases List.mem_map.mp htime with ⟨row, hrow, heq⟩
    rcases List.mem_filter.mp hrow with ⟨hmem, hfingerprint⟩
    rcases mem_edgeRows.mp hmem with ⟨halert, _⟩
    exact List.mem_map.mpr ⟨row.alert, List.mem_filter.mpr ⟨halert, hfingerprint⟩, heq⟩
  · intro htime
    rcases List.mem_map.mp htime with ⟨alert, hfiltered, heq⟩
    rcases List.mem_filter.mp hfiltered with ⟨halert, hfingerprint⟩
    rcases isLinked_iff.mp h with ⟨link, hlink, hsame, hincident⟩
    have hrow : (⟨alert, tables.lastAlertOf alert.fingerprint, link⟩ : EdgeRow) ∈
        edgeRows tables incidentId :=
      mem_edgeRows.mpr ⟨halert,
        ⟨hlink, hsame.trans (of_decide_eq_true hfingerprint).symm, hincident⟩, rfl⟩
    exact List.mem_map.mpr ⟨_, List.mem_filter.mpr ⟨hrow, hfingerprint⟩, heq⟩

/-- The query takes the group of the fingerprint with the earliest time. -/
theorem argmin_edgeGroups (direction : Direction) :
    (edgeGroups tables incidentId).argmin (edgeTime direction) =
      (tables.edgeLinked incidentId direction).map (tables.rowsOf incidentId) := by
  rw [edgeGroups_eq, argmin_map]
  unfold edgeLinked
  congr 1
  apply argmin_congr
  intro f hf
  exact edgeTime_rowsOf (mem_fingerprints.mp hf).2

theorem rowsOf_ne_nil {fingerprint : String}
    (h : fingerprint ∈ tables.fingerprints (tables.isLinked incidentId)) :
    tables.rowsOf incidentId fingerprint ≠ [] := by
  rcases mem_fingerprints.mp h with ⟨⟨alert, halert, hfingerprint⟩, hlinked⟩
  rcases isLinked_iff.mp hlinked with ⟨link, hlink, hsame, hincident⟩
  have hrow : (⟨alert, tables.lastAlertOf alert.fingerprint, link⟩ : EdgeRow) ∈
      edgeRows tables incidentId :=
    mem_edgeRows.mpr ⟨halert, ⟨hlink, hsame.trans hfingerprint.symm, hincident⟩, rfl⟩
  exact List.ne_nil_of_mem (List.mem_filter.mpr ⟨hrow, decide_eq_true hfingerprint⟩)

end Tables

/-!
## Answers
-/

namespace CountedIncident

variable {database : Database} {state : CountedIncident}

/-- An incident that counts alerts has a fingerprint to look at. -/
theorem exists_edgeLinked (state : CountedIncident) (direction : Direction) :
    exists f, state.tables.edgeLinked state.incident.id direction = some f := by
  have hactive : 0 < (state.tables.activeFingerprints state.incident.id).length := by
    rw [← state.counted]
    exact state.positive
  rcases List.exists_mem_of_length_pos hactive with ⟨f, hf⟩
  rcases Tables.mem_activeFingerprints.mp hf with ⟨link, hlink, hfingerprint, _, hincident⟩
  rcases state.wellFormed.linked link hlink with ⟨lastAlert, hlast, hsame⟩
  rcases state.wellFormed.current lastAlert hlast with ⟨alert, halert, _, hcurrent⟩
  have hmem : f ∈ state.tables.fingerprints (state.tables.isLinked state.incident.id) :=
    Tables.mem_fingerprints.mpr ⟨⟨alert, halert, hcurrent.trans (hsame.trans hfingerprint)⟩,
      Tables.isLinked_iff.mpr ⟨link, hlink, hfingerprint, hincident⟩⟩
  apply Option.ne_none_iff_exists'.mp
  intro hnone
  rw [List.argmin_eq_none.mp hnone] at hmem
  exact List.not_mem_nil hmem

/-- What the query answers about the fingerprint that it takes. -/
theorem isEdgeIncidentAlertResolved_eq {direction : Direction} {f : String}
    (htakes : database.takesUngrouped = true)
    (hf : state.tables.edgeLinked state.incident.id direction = some f) :
    isEdgeIncidentAlertResolved database state.tables state.incident direction =
      .ok ((state.tables.override f).or
        (database.takenStatus (state.tables.rowsOf state.incident.id f)) ==
          some resolvedStatus) := by
  have hmem : f ∈ state.tables.fingerprints (state.tables.isLinked state.incident.id) :=
    List.argmin_mem (Option.mem_def.mpr hf)
  unfold isEdgeIncidentAlertResolved
  rw [if_neg (Nat.ne_of_gt state.positive), htakes, if_neg Bool.true_eq_false.mp,
    Tables.argmin_edgeGroups, hf, Option.map_some]
  cases hrows : state.tables.rowsOf state.incident.id f with
  | nil => exact absurd hrows (Tables.rowsOf_ne_nil hmem)
  | cons row rows =>
      have hrow : row ∈ state.tables.rowsOf state.incident.id f := by
        rw [hrows]
        exact List.mem_cons_self
      rcases List.mem_filter.mp hrow with ⟨hedge, hfingerprint⟩
      have hoverride : row.enrichedStatus = state.tables.override f := by
        rw [Tables.enrichedStatus_eq hedge, of_decide_eq_true hfingerprint]
      show Except.ok (row.enrichedStatus == some resolvedStatus ||
        (row.enrichedStatus.isNone &&
          database.takenStatus (row :: rows) == some resolvedStatus)) = _
      rw [hoverride]
      cases state.tables.override f with
      | none => rfl
      | some status => exact congrArg Except.ok (Bool.or_false _)

theorem edgeCurrent_iff (direction : Direction) :
    EdgeCurrent database state direction <->
      database.takesUngrouped = true ∧ EdgeAgrees database state direction := by
  rcases exists_edgeLinked state direction with ⟨f, hf⟩
  have hlinked : (exists f, state.tables.edgeLinked state.incident.id direction = some f ∧
      (state.tables.override f).or
        (database.takenStatus (state.tables.rowsOf state.incident.id f)) = some resolvedStatus) <->
      (state.tables.override f).or
        (database.takenStatus (state.tables.rowsOf state.incident.id f)) = some resolvedStatus := by
    constructor
    · intro h
      rcases h with ⟨other, hother, hstatus⟩
      rw [hf] at hother
      rw [Option.some.inj hother]
      exact hstatus
    · intro h
      exact ⟨f, hf, h⟩
  unfold EdgeCurrent EdgeAgrees
  rw [hlinked]
  constructor
  · intro h
    rcases h with ⟨answer, hanswer, hiff⟩
    cases htakes : database.takesUngrouped with
    | false =>
        unfold isEdgeIncidentAlertResolved at hanswer
        rw [if_neg (Nat.ne_of_gt state.positive), if_pos htakes] at hanswer
        cases hanswer
    | true =>
        rw [isEdgeIncidentAlertResolved_eq htakes hf] at hanswer
        rw [← Except.ok.inj hanswer, beq_iff_eq] at hiff
        exact ⟨rfl, hiff⟩
  · intro h
    rcases h with ⟨htakes, hiff⟩
    refine ⟨_, isEdgeIncidentAlertResolved_eq htakes hf, ?_⟩
    rw [beq_iff_eq]
    exact hiff

/-- The queries depend on the current alerts exactly if the statuses that matter are not missing,
and the database takes the same from the links as the active ones say. -/
theorem resolvesCurrent_iff (database : Database) (state : CountedIncident) :
    ResolvesCurrent database state <-> Agrees database state := by
  constructor
  · intro h
    have hfirst := (edgeCurrent_iff .min).mp h.first
    have hlast := (edgeCurrent_iff .max).mp h.last
    exact ⟨all_iff.mp h.all, hfirst.1, hfirst.2, hlast.2⟩
  · intro h
    exact ⟨all_iff.mpr h.decided, (edgeCurrent_iff .min).mpr ⟨h.taken, h.first⟩,
      (edgeCurrent_iff .max).mpr ⟨h.taken, h.last⟩⟩

end CountedIncident

/-!
## Two alerts
-/

namespace EdgeSample

/-- A database that takes the first row of a group. -/
def database : Database where
  takesUngrouped := true
  ungrouped := fun row _ => row
  ungrouped_mem := fun _ _ => List.mem_cons_self

/-- The alert that is resolved is older than the one that fires. -/
def tables : Tables where
  alerts := [⟨1, "a", 1, some "resolved"⟩, ⟨2, "b", 2, some "firing"⟩]
  lastAlerts := [⟨"a", 1, none⟩, ⟨"b", 2, none⟩]
  links := [⟨7, "a", none⟩, ⟨7, "b", none⟩]

def incident : Incident where
  id := 7
  status := .firing
  mergedInto := none
  mergedBy := none
  severity := 0
  forcedSeverity := false
  alertsCount := 2
  affectedServices := []
  sources := []

theorem wellFormed : tables.WellFormed where
  alertKey := by decide
  lastAlertKey := by decide
  linked := by decide
  current := by decide

def state : CountedIncident := ⟨tables, incident, wellFormed, rfl, Nat.succ_pos 1⟩

end EdgeSample

open CountedIncident EdgeSample in
/-- The query for the last alert finds the earliest one. -/
theorem earlierResolved_not_resolvesCurrent :
    ¬ forall (database : Database) (state : CountedIncident), ResolvesCurrent database state := by
  intro h
  rcases (h database state).last with ⟨answer, hanswer, hiff⟩
  have hresolved : isLastIncidentAlertResolved database tables incident = .ok true := rfl
  have hsame : answer = true := Except.ok.inj (hanswer.symm.trans hresolved)
  rcases hiff.mp hsame with ⟨f, hf, hstatus⟩
  have hlast : tables.edgeActive 7 .max = some "b" := rfl
  have hb : f = "b" := Option.some.inj (hf.symm.trans hlast)
  rw [hb] at hstatus
  have hfiring : tables.effectiveStatus "b" = some "firing" := rfl
  exact absurd (Option.some.inj (hfiring.symm.trans hstatus)) (by decide)

end Incidents
end KeepGateway
