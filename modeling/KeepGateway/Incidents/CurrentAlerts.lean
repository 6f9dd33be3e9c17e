import KeepGateway.Incidents.Resolution
import KeepGateway.Lib.FirstMatch

/-!
# The current alerts of an incident

When the resolution of an incident depends on the alerts that are linked to it now.
-/

namespace KeepGateway
namespace Incidents

open Rows

/-!
## Statuses of fingerprints
-/

namespace Tables

def activeFingerprints (tables : Tables) (incidentId : Nat) : List String :=
  (tables.links.filter fun link => link.deletedAt.isNone && link.incident == incidentId).map
    Link.fingerprint

/-- The fingerprint is linked to the incident, or was. -/
def isLinked (tables : Tables) (incidentId : Nat) (fingerprint : String) : Bool :=
  tables.links.any fun link => link.fingerprint == fingerprint && link.incident == incidentId

/-- The override of a fingerprint. -/
def override (tables : Tables) (fingerprint : String) : Option String :=
  (tables.lastAlertOf fingerprint).bind LastAlertRow.status

/-- What the provider last reported of a fingerprint. -/
def providerStatus (tables : Tables) (fingerprint : String) : Option String := do
  let lastAlert <- tables.lastAlertOf fingerprint
  let alert <- tables.alerts.find? fun alert => alert.id == lastAlert.alertId
  alert.status

def effectiveStatus (tables : Tables) (fingerprint : String) : Option String :=
  (tables.override fingerprint).or (tables.providerStatus fingerprint)

def Resolved (tables : Tables) (fingerprint : String) : Prop :=
  tables.effectiveStatus fingerprint = some resolvedStatus

/-!
## The first and the last
-/

/-- The fingerprints of the alerts in the table, each of them once. -/
def fingerprints (tables : Tables) (p : String -> Bool) : List String :=
  ((tables.alerts.map AlertRow.fingerprint).filter p).dedup

/-- The first or the last time of an alert with the fingerprint. -/
def time (tables : Tables) (direction : Direction) (fingerprint : String) : Nat :=
  direction.of ((tables.alerts.filter fun alert => alert.fingerprint = fingerprint).map
    AlertRow.timestamp)

/-- The actively linked fingerprint with the earliest first alert, or the latest last one. -/
def edgeActive (tables : Tables) (incidentId : Nat) : Direction -> Option String
  | .min => (tables.fingerprints fun f => decide (f ∈ tables.activeFingerprints incidentId)).argmin
      (tables.time .min)
  | .max => (tables.fingerprints fun f => decide (f ∈ tables.activeFingerprints incidentId)).argmax
      (tables.time .max)

/-- The fingerprint with the earliest first alert, or the earliest last one, of those that are
linked or were. -/
def edgeLinked (tables : Tables) (incidentId : Nat) (direction : Direction) : Option String :=
  (tables.fingerprints (tables.isLinked incidentId)).argmin (tables.time direction)

/-- The rows of a fingerprint, of which the database takes the provider's status. -/
def rowsOf (tables : Tables) (incidentId : Nat) (fingerprint : String) : List EdgeRow :=
  (edgeRows tables incidentId).filter fun row => row.alert.fingerprint = fingerprint

end Tables

/-- The status of the alert that the database takes. -/
def Database.takenStatus (database : Database) : List EdgeRow -> Option String
  | [] => none
  | row :: rows => (database.ungrouped row rows).alert.status

/-- An incident with as many active links as it counts alerts, at least one. -/
structure CountedIncident where
  tables : Tables
  incident : Incident
  wellFormed : tables.WellFormed
  counted : incident.alertsCount = (tables.activeFingerprints incident.id).length
  positive : 0 < incident.alertsCount

namespace CountedIncident

variable (database : Database) (state : CountedIncident)

/-- The query for a direction returns, and says whether the alert is resolved that the direction
is about. -/
def EdgeCurrent (direction : Direction) : Prop :=
  exists answer,
    isEdgeIncidentAlertResolved database state.tables state.incident direction = .ok answer ∧
      (answer = true <-> exists f,
        state.tables.edgeActive state.incident.id direction = some f ∧ state.tables.Resolved f)

/-- The three queries depend on the alerts that are linked now. -/
structure ResolvesCurrent : Prop where
  all : isAllAlertsResolved state.tables none (some state.incident) = true <->
    forall f, f ∈ state.tables.activeFingerprints state.incident.id -> state.tables.Resolved f
  first : EdgeCurrent database state .min
  last : EdgeCurrent database state .max

/-- The fingerprint that the direction leads to, among those that are linked or were, is resolved
with the status that the database takes exactly if the active one is. -/
def EdgeAgrees (direction : Direction) : Prop :=
  (exists f, state.tables.edgeLinked state.incident.id direction = some f ∧
      (state.tables.override f).or
        (database.takenStatus (state.tables.rowsOf state.incident.id f)) = some resolvedStatus) <->
    exists f, state.tables.edgeActive state.incident.id direction = some f ∧
      state.tables.Resolved f

/-- No linked alert is without a status, unless another one has one that is not resolved; and the
database takes the query, and from it the same as the active links say. -/
structure Agrees : Prop where
  decided : (exists f, f ∈ state.tables.activeFingerprints state.incident.id ∧
      exists status, state.tables.effectiveStatus f = some status ∧ status ≠ resolvedStatus) ∨
    forall f, f ∈ state.tables.activeFingerprints state.incident.id ->
      state.tables.effectiveStatus f ≠ none
  taken : database.takesUngrouped = true
  first : EdgeAgrees database state .min
  last : EdgeAgrees database state .max

end CountedIncident

/-!
## All alerts
-/

theorem notInStatus_eq_yes_iff {status : String} {row : LastAlertRow × AlertRow} :
    notInStatus status row = .yes <->
      exists text, row.1.status.or row.2.status = some text ∧ text ≠ status := by
  have hnotEqual : forall column : Option String,
      notEqual column status = .yes <-> exists text, column = some text ∧ text ≠ status := by
    intro column
    cases column with
    | none =>
        constructor
        · intro h
          cases h
        · intro h
          rcases h with ⟨text, htext, _⟩
          cases htext
    | some text =>
        show Truth.ofBool (text != status) = .yes <-> _
        cases htest : text != status with
        | true => exact ⟨fun _ => ⟨text, rfl, bne_iff_ne.mp htest⟩, fun _ => rfl⟩
        | false =>
            constructor
            · intro h
              cases h
            · intro h
              rcases h with ⟨other, hother, hne⟩
              rw [Option.some.inj hother] at htest
              exact absurd (bne_iff_ne.mpr hne) (by rw [htest]; exact Bool.false_ne_true)
  unfold notInStatus
  rw [Truth.or_eq_yes, Truth.and_eq_yes, hnotEqual, hnotEqual]
  cases hoverride : row.1.status with
  | none =>
      constructor
      · intro h
        rcases h with ⟨text, htext, _⟩ | ⟨_, hprovider⟩
        · cases htext
        · exact hprovider
      · intro h
        exact Or.inr ⟨rfl, h⟩
  | some text =>
      constructor
      · intro h
        rcases h with hset | ⟨hnone, _⟩
        · exact hset
        · cases hnone
      · intro h
        exact Or.inl h

namespace Tables

variable {tables : Tables}

/-- The last alert of a fingerprint is the one row that has it. -/
theorem lastAlertOf_eq (h : tables.WellFormed) {lastAlert : LastAlertRow}
    (hmem : lastAlert ∈ tables.lastAlerts) :
    tables.lastAlertOf lastAlert.fingerprint = some lastAlert :=
  (FirstMatch.find?_key h.lastAlertKey).mpr ⟨hmem, rfl⟩

theorem find_alert_eq (h : tables.WellFormed) {alert : AlertRow} (hmem : alert ∈ tables.alerts) :
    (tables.alerts.find? fun other => other.id == alert.id) = some alert :=
  (FirstMatch.find?_key h.alertKey).mpr ⟨hmem, rfl⟩

/-- A row of the query shows the effective status of its fingerprint. -/
theorem effectiveStatus_eq (h : tables.WellFormed) {row : LastAlertRow × AlertRow}
    (hlast : row.1 ∈ tables.lastAlerts) (halert : row.2 ∈ tables.alerts)
    (hid : row.1.alertId = row.2.id) :
    tables.effectiveStatus row.1.fingerprint = row.1.status.or row.2.status := by
  unfold effectiveStatus override providerStatus
  rw [lastAlertOf_eq h hlast, Option.bind_some]
  show row.1.status.or
    ((tables.alerts.find? fun alert => alert.id == row.1.alertId).bind AlertRow.status) = _
  rw [hid, find_alert_eq h halert, Option.bind_some]

theorem mem_activeFingerprints {incidentId : Nat} {fingerprint : String} :
    fingerprint ∈ tables.activeFingerprints incidentId <->
      exists link, link ∈ tables.links ∧ link.fingerprint = fingerprint ∧
        link.deletedAt = none ∧ link.incident = incidentId := by
  unfold activeFingerprints
  constructor
  · intro h
    rcases List.mem_map.mp h with ⟨link, hlink, heq⟩
    rcases List.mem_filter.mp hlink with ⟨hmem, htest⟩
    rcases Bool.and_eq_true_iff.mp htest with ⟨hactive, hincident⟩
    exact ⟨link, hmem, heq, Option.isNone_iff_eq_none.mp hactive, beq_iff_eq.mp hincident⟩
  · intro h
    rcases h with ⟨link, hmem, heq, hactive, hincident⟩
    apply List.mem_map.mpr
    refine ⟨link, List.mem_filter.mpr ⟨hmem, ?_⟩, heq⟩
    rw [hactive, hincident, Option.isNone_none, beq_self_eq_true, Bool.true_and]

/-- The rows of the query are those of the active fingerprints. -/
theorem mem_statusRows {incident : Incident} {row : LastAlertRow × AlertRow} :
    row ∈ statusRows tables none (some incident) <->
      (row.1 ∈ tables.lastAlerts ∧ row.2 ∈ tables.alerts ∧ row.1.alertId = row.2.id) ∧
        row.1.fingerprint ∈ tables.activeFingerprints incident.id := by
  unfold statusRows
  rw [mem_activeFingerprints]
  constructor
  · intro h
    rcases List.mem_map.mp h with ⟨joined, hjoined, heq⟩
    rcases mem_join hjoined with ⟨hrow, hlink, hon⟩
    rw [heq] at hrow hon
    rcases mem_join hrow with ⟨hlast, halert, hid⟩
    rcases Bool.and_eq_true_iff.mp hon with ⟨hon, hincident⟩
    rcases Bool.and_eq_true_iff.mp hon with ⟨hfingerprint, hactive⟩
    exact ⟨⟨hlast, halert, beq_iff_eq.mp hid⟩, joined.2, hlink, beq_iff_eq.mp hfingerprint,
      Option.isNone_iff_eq_none.mp hactive, beq_iff_eq.mp hincident⟩
  · intro h
    rcases h with ⟨⟨hlast, halert, hid⟩, link, hlink, hfingerprint, hactive, hincident⟩
    have hrow : row ∈ join (fun lastAlert alert => lastAlert.alertId == alert.id)
        tables.lastAlerts tables.alerts := join_mem hlast halert (beq_iff_eq.mpr hid)
    apply List.mem_map.mpr
    refine ⟨(row, link), join_mem hrow hlink ?_, rfl⟩
    rw [hfingerprint, hactive, hincident, beq_self_eq_true, beq_self_eq_true,
      Option.isNone_none]
    rfl

end Tables

namespace CountedIncident

variable {database : Database} {state : CountedIncident}

/-- An active fingerprint has a row. -/
theorem exists_row {f : String}
    (hf : f ∈ state.tables.activeFingerprints state.incident.id) :
    exists row, row ∈ statusRows state.tables none (some state.incident) ∧
      row.1.fingerprint = f := by
  rcases Tables.mem_activeFingerprints.mp hf with ⟨link, hlink, hfingerprint, _⟩
  rcases state.wellFormed.linked link hlink with ⟨lastAlert, hlast, hsame⟩
  rcases state.wellFormed.current lastAlert hlast with ⟨alert, halert, hid, _⟩
  rw [hfingerprint] at hsame
  refine ⟨(lastAlert, alert), Tables.mem_statusRows.mpr ⟨⟨hlast, halert, hid.symm⟩, ?_⟩, hsame⟩
  rw [hsame]
  exact hf

/-- The query finds the statuses that are known not to be resolved. -/
theorem isAllAlertsResolved_iff :
    isAllAlertsResolved state.tables none (some state.incident) = true <->
      ¬ exists f, f ∈ state.tables.activeFingerprints state.incident.id ∧
        exists status, state.tables.effectiveStatus f = some status ∧ status ≠ resolvedStatus := by
  have hcount : hasNoAlerts (some state.incident) = false :=
    beq_eq_false_iff_ne.mpr (Nat.ne_of_gt state.positive)
  unfold isAllAlertsResolved isAllAlertsInStatus
  rw [hcount, if_neg Bool.false_ne_true, Bool.not_eq_true', Bool.eq_false_iff, Ne, List.any_eq_true]
  apply not_congr
  constructor
  · intro h
    rcases h with ⟨row, hrow, htest⟩
    rcases Tables.mem_statusRows.mp hrow with ⟨⟨hlast, halert, hid⟩, hactive⟩
    refine ⟨row.1.fingerprint, hactive, ?_⟩
    rw [Tables.effectiveStatus_eq state.wellFormed hlast halert hid]
    exact notInStatus_eq_yes_iff.mp (beq_iff_eq.mp htest)
  · intro h
    rcases h with ⟨f, hf, hstatus⟩
    rcases exists_row hf with ⟨row, hrow, hsame⟩
    rcases Tables.mem_statusRows.mp hrow with ⟨⟨hlast, halert, hid⟩, _⟩
    rw [← hsame, Tables.effectiveStatus_eq state.wellFormed hlast halert hid] at hstatus
    exact ⟨row, hrow, beq_iff_eq.mpr (notInStatus_eq_yes_iff.mpr hstatus)⟩

/-- The query for all alerts is right unless an alert without a status is what matters. -/
theorem all_iff :
    (isAllAlertsResolved state.tables none (some state.incident) = true <->
      forall f, f ∈ state.tables.activeFingerprints state.incident.id ->
        state.tables.Resolved f) <->
    ((exists f, f ∈ state.tables.activeFingerprints state.incident.id ∧
        exists status, state.tables.effectiveStatus f = some status ∧ status ≠ resolvedStatus) ∨
      forall f, f ∈ state.tables.activeFingerprints state.incident.id ->
        state.tables.effectiveStatus f ≠ none) := by
  rw [isAllAlertsResolved_iff]
  constructor
  · intro h
    rcases Classical.em (exists f, f ∈ state.tables.activeFingerprints state.incident.id ∧
      exists status, state.tables.effectiveStatus f = some status ∧ status ≠ resolvedStatus) with
      hother | hnone
    · exact Or.inl hother
    · right
      intro f hf hempty
      have hresolved := h.mp hnone f hf
      rw [Tables.Resolved, hempty] at hresolved
      cases hresolved
  · intro h
    constructor
    · intro hnone f hf
      rcases h with hother | hall
      · exact absurd hother hnone
      · rcases Option.ne_none_iff_exists'.mp (hall f hf) with ⟨status, hstatus⟩
        rcases Classical.em (status = resolvedStatus) with heq | hne
        · rw [Tables.Resolved, hstatus, heq]
        · exact absurd ⟨f, hf, status, hstatus, hne⟩ hnone
    · intro hall hother
      rcases hother with ⟨f, hf, status, hstatus, hne⟩
      have hresolved := hall f hf
      rw [Tables.Resolved, hstatus] at hresolved
      exact hne (Option.some.inj hresolved)

end CountedIncident

end Incidents
end KeepGateway
