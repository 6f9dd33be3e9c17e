import KeepGateway.Incidents.CurrentAlerts

/-!
# Routes that resolve alerts

The routes for enriching one alert or several with the status resolved, the checks that they make
of the incidents of these alerts, and the rule of `IncidentBl.resolve_incident_if_require`.
-/

namespace KeepGateway
namespace Incidents

open Rows

/-- The override of a last alert that is enriched with the status resolved. -/
def LastAlertRow.resolve (fingerprints : List String) (row : LastAlertRow) : LastAlertRow :=
  if row.fingerprint ∈ fingerprints then { row with status := some resolvedStatus } else row

def Tables.resolve (fingerprints : List String) (tables : Tables) : Tables :=
  { tables with lastAlerts := tables.lastAlerts.map (LastAlertRow.resolve fingerprints) }

namespace ResolvingRoutes

inductive ResolveOn where
  | first
  | last
  | all
  | never
  deriving DecidableEq, Repr

structure IncidentRow where
  incident : Incident
  resolveOn : ResolveOn
  deriving DecidableEq, Repr

/-- The tables of a tenant. -/
structure State where
  tables : Tables
  incidents : List IncidentRow

/-- A request that succeeds. -/
inductive Request where
  | enrichAlert (fingerprint : String)
  | batchEnrichAlerts (fingerprints : List String)
  deriving DecidableEq, Repr

/-- `should_check_incidents_resolution` of `get_enrichment_metadata`, for the status resolved and a
user with an API key of this name, or none. -/
def shouldCheckIncidentsResolution (apiKeyName : Option String) : Bool :=
  match apiKeyName with
  | none => true
  | some name => name != ""

/-- The joined rows of the active links of some fingerprints with their incidents. -/
def linkedIncidents (state : State) (fingerprints : List String) : List (Link × IncidentRow) :=
  let links := (join (fun (lastAlert : LastAlertRow) link =>
    link.fingerprint == lastAlert.fingerprint && link.deletedAt.isNone)
      state.tables.lastAlerts state.tables.links).map Prod.snd
  join (fun link row => link.incident == row.incident.id)
    (links.filter fun link => fingerprints.contains link.fingerprint) state.incidents

/-- `get_incidents_by_alert_fingerprint` -/
def getIncidentsByAlertFingerprint (state : State) (fingerprint : String) : List Nat :=
  (linkedIncidents state [fingerprint]).map fun row => row.2.incident.id

/-- `enrich_alerts_with_incidents`: the incidents of each alert. -/
def enrichAlertsWithIncidents (state : State) (alerts : List AlertRow) :
    List (AlertRow × List Nat) :=
  let rows := linkedIncidents state (alerts.map AlertRow.fingerprint)
  alerts.map fun alert =>
    (alert, (rows.filter fun row => row.1.fingerprint == alert.fingerprint).map
      fun row => row.2.incident.id)

/-- The check of one incident that both routes make. -/
def IncidentRow.check (tables : Tables) (row : IncidentRow) : IncidentRow :=
  if row.resolveOn = .all ∧ isAllAlertsResolved tables none (some row.incident) = true then
    { row with incident := { row.incident with status := .resolved } }
  else row

def State.check (state : State) (id : Nat) : State :=
  { state with
    incidents := state.incidents.map fun row =>
      if row.incident.id = id then row.check state.tables else row }

/-- `check_incident_resolution` -/
def checkIncidentResolution (state : State) (fingerprint : String) : State :=
  (getIncidentsByAlertFingerprint state fingerprint).foldl State.check state

/-- `_enrich_alert`; the request fails where the alert is not found. -/
def enrichAlert (apiKeyName : Option String) (fingerprint : String) (state : State) : State :=
  let state := { state with tables := state.tables.resolve [fingerprint] }
  match state.tables.alerts.find? fun alert => alert.fingerprint == fingerprint with
  | none => state
  | some alert =>
      if shouldCheckIncidentsResolution apiKeyName = true then
        checkIncidentResolution state alert.fingerprint
      else state

/-- `batch_enrich_alerts` -/
def batchEnrichAlerts (apiKeyName : Option String) (fingerprints : List String) (state : State) :
    State :=
  let tables := fingerprints.foldl (fun tables fingerprint => tables.resolve [fingerprint])
    state.tables
  let state := { state with tables := tables }
  let alertIds := (tables.lastAlerts.filter fun lastAlert =>
    fingerprints.contains lastAlert.fingerprint).map LastAlertRow.alertId
  let alerts := tables.alerts.filter fun alert => alertIds.contains alert.id
  if shouldCheckIncidentsResolution apiKeyName = true then
    (enrichAlertsWithIncidents state alerts).foldl
      (fun state alert => alert.2.foldl State.check state) state
  else state

def Request.fingerprints : Request -> List String
  | enrichAlert fingerprint => [fingerprint]
  | batchEnrichAlerts fingerprints => fingerprints

def State.step (apiKeyName : Option String) (state : State) : Request -> State
  | .enrichAlert fingerprint => enrichAlert apiKeyName fingerprint state
  | .batchEnrichAlerts fingerprints => batchEnrichAlerts apiKeyName fingerprints state

/-!
## The rule
-/

/-- What `resolve_incident_if_require` decides by. -/
def shouldResolve (database : Database) (tables : Tables) (row : IncidentRow) :
    Except EdgeFailure Bool :=
  match row.resolveOn with
  | .all => .ok (isAllAlertsResolved tables none (some row.incident))
  | .first => isFirstIncidentAlertResolved database tables row.incident
  | .last => isLastIncidentAlertResolved database tables row.incident
  | .never => .ok false

/-- Requests of a user that resolve alerts of an incident. -/
structure UserRun where
  state : State
  row : IncidentRow
  apiKeyName : Option String
  requests : List Request
  wellFormed : state.tables.WellFormed
  primaryKey : (state.incidents.map fun row => row.incident.id).Nodup
  mem : row ∈ state.incidents
  rule : row.resolveOn ≠ .never
  requested : requests ≠ []
  alerts : forall request, request ∈ requests -> request.fingerprints ≠ [] ∧
    forall fingerprint, fingerprint ∈ request.fingerprints ->
      fingerprint ∈ state.tables.activeFingerprints row.incident.id

def UserRun.after (run : UserRun) : State :=
  run.requests.foldl (State.step run.apiKeyName) run.state

/-- After the requests the incident is resolved if it was so before or by its rule. -/
def UserRun.AppliesRule (database : Database) (run : UserRun) : Prop :=
  exists row, row ∈ run.after.incidents ∧ row.incident.id = run.row.incident.id ∧
    (row.incident.status = .resolved <->
      run.row.incident.status = .resolved ∨
        shouldResolve database run.after.tables run.row = .ok true)

/-!
## Resolved overrides
-/

theorem resolve_fingerprint (fingerprints : List String) (row : LastAlertRow) :
    (row.resolve fingerprints).fingerprint = row.fingerprint := by
  unfold LastAlertRow.resolve
  split <;> rfl

theorem resolve_alertId (fingerprints : List String) (row : LastAlertRow) :
    (row.resolve fingerprints).alertId = row.alertId := by
  unfold LastAlertRow.resolve
  split <;> rfl

theorem resolve_wellFormed {tables : Tables} (h : tables.WellFormed) (fingerprints : List String) :
    (tables.resolve fingerprints).WellFormed where
  alertKey := h.alertKey
  lastAlertKey := by
    have hkeys : (tables.resolve fingerprints).lastAlerts.map LastAlertRow.fingerprint =
        tables.lastAlerts.map LastAlertRow.fingerprint := by
      show (tables.lastAlerts.map _).map _ = _
      rw [List.map_map]
      exact List.map_congr_left fun row _ => resolve_fingerprint fingerprints row
    rw [hkeys]
    exact h.lastAlertKey
  linked := by
    intro link hlink
    rcases h.linked link hlink with ⟨lastAlert, hmem, heq⟩
    exact ⟨lastAlert.resolve fingerprints, List.mem_map_of_mem hmem,
      (resolve_fingerprint fingerprints lastAlert).trans heq⟩
  current := by
    intro lastAlert hmem
    rcases List.mem_map.mp hmem with ⟨before, hbefore, heq⟩
    rcases h.current before hbefore with ⟨alert, halert, hid, hfingerprint⟩
    rw [← heq]
    exact ⟨alert, halert, hid.trans (resolve_alertId fingerprints before).symm,
      hfingerprint.trans (resolve_fingerprint fingerprints before).symm⟩

theorem resolve_cons (fingerprint : String) (rest : List String) (tables : Tables) :
    (tables.resolve [fingerprint]).resolve rest = tables.resolve (fingerprint :: rest) := by
  have hrow : forall row : LastAlertRow,
      (row.resolve [fingerprint]).resolve rest = row.resolve (fingerprint :: rest) := by
    intro row
    rcases Classical.em (row.fingerprint = fingerprint) with hfirst | hother
    · simp [LastAlertRow.resolve, hfirst]
    · simp [LastAlertRow.resolve, hother]
  unfold Tables.resolve
  rw [List.map_map]
  exact congrArg (fun rows => { tables with lastAlerts := rows })
    (List.map_congr_left fun row _ => hrow row)

/-- Alerts are resolved one after the other or at once. -/
theorem foldl_resolve (fingerprints : List String) (tables : Tables) :
    fingerprints.foldl (fun tables fingerprint => tables.resolve [fingerprint]) tables =
      tables.resolve fingerprints := by
  induction fingerprints generalizing tables with
  | nil =>
      have hrow : forall row : LastAlertRow, row.resolve [] = row := fun row =>
        if_neg List.not_mem_nil
      show tables = { tables with lastAlerts := tables.lastAlerts.map (LastAlertRow.resolve []) }
      rw [List.map_congr_left fun row _ => hrow row, List.map_id']
  | cons fingerprint rest ih => rw [List.foldl_cons, ih, resolve_cons]

/-- Where all alerts are resolved, they stay so. -/
theorem isAllAlertsResolved_resolve {tables : Tables} {incident : Incident}
    (h : isAllAlertsResolved tables none (some incident) = true) (fingerprints : List String) :
    isAllAlertsResolved (tables.resolve fingerprints) none (some incident) = true := by
  unfold isAllAlertsResolved isAllAlertsInStatus at h ⊢
  split at h
  · cases h
  · rename_i hcount
    rw [if_neg hcount]
    rw [Bool.not_eq_true', List.any_eq_false] at h ⊢
    intro row hrow hyes
    rcases Tables.mem_statusRows.mp hrow with ⟨⟨hlast, halert, hid⟩, hactive⟩
    rcases List.mem_map.mp hlast with ⟨before, hbefore, heq⟩
    rcases Classical.em (before.fingerprint ∈ fingerprints) with hresolved | hnot
    · rcases notInStatus_eq_yes_iff.mp (beq_iff_eq.mp hyes) with ⟨text, htext, hne⟩
      rw [← heq, LastAlertRow.resolve, if_pos hresolved, Option.some_or] at htext
      exact hne (Option.some.inj htext).symm
    · rw [LastAlertRow.resolve, if_neg hnot] at heq
      rw [heq] at hbefore
      exact h row (Tables.mem_statusRows.mpr ⟨⟨hbefore, halert, hid⟩, hactive⟩) hyes

/-!
## Checks
-/

theorem check_id (tables : Tables) (row : IncidentRow) :
    (row.check tables).incident.id = row.incident.id := by
  unfold IncidentRow.check
  split <;> rfl

theorem check_resolveOn (tables : Tables) (row : IncidentRow) :
    (row.check tables).resolveOn = row.resolveOn := by
  unfold IncidentRow.check
  split <;> rfl

/-- The status makes no difference to whether all alerts are resolved. -/
theorem isAllAlertsResolved_check (tables others : Tables) (row : IncidentRow) :
    isAllAlertsResolved others none (some (row.check tables).incident) =
      isAllAlertsResolved others none (some row.incident) := by
  unfold IncidentRow.check
  split <;> rfl

theorem check_status (tables : Tables) (row : IncidentRow) :
    (row.check tables).incident.status = .resolved <->
      row.incident.status = .resolved ∨
        row.resolveOn = .all ∧ isAllAlertsResolved tables none (some row.incident) = true := by
  unfold IncidentRow.check
  split
  · rename_i h
    exact iff_of_true rfl (Or.inr h)
  · rename_i h
    exact (or_iff_left h).symm

theorem check_check (tables : Tables) (row : IncidentRow) :
    (row.check tables).check tables = row.check tables := by
  rcases Classical.em (row.resolveOn = .all ∧
    isAllAlertsResolved tables none (some row.incident) = true) with h | h
  · have hchecked : row.check tables =
        { row with incident := { row.incident with status := .resolved } } := if_pos h
    rw [hchecked]
    exact if_pos h
  · have hchecked : row.check tables = row := if_neg h
    rw [hchecked, hchecked]

/-- Checks of some incidents, one after the other. -/
theorem foldl_check (ids : List Nat) (state : State) :
    ids.foldl State.check state =
      { state with
        incidents := state.incidents.map fun row =>
          if row.incident.id ∈ ids then row.check state.tables else row } := by
  induction ids generalizing state with
  | nil =>
      show state = { state with incidents := state.incidents.map fun row => row }
      rw [List.map_id']
  | cons id ids ih =>
      have hrow : forall row : IncidentRow,
          (let checked := if row.incident.id = id then row.check state.tables else row
            if checked.incident.id ∈ ids then checked.check state.tables else checked) =
          if row.incident.id ∈ id :: ids then row.check state.tables else row := by
        intro row
        rcases Classical.em (row.incident.id = id) with hfirst | hother
        · simp [hfirst, check_id, check_check]
        · simp [hother]
      rw [List.foldl_cons, ih]
      show { state with incidents := (state.incidents.map _).map _ } = _
      rw [List.map_map]
      exact congrArg (fun rows => { state with incidents := rows })
        (List.map_congr_left fun row _ => hrow row)

/-!
## One request
-/

/-- An active link of a fingerprint leads to its incident. -/
theorem exists_linkedIncident {state : State} (h : state.tables.WellFormed) {row : IncidentRow}
    (hrow : row ∈ state.incidents) {fingerprint : String} {fingerprints : List String}
    (hmem : fingerprint ∈ fingerprints)
    (hactive : fingerprint ∈ state.tables.activeFingerprints row.incident.id) :
    exists link, (link, row) ∈ linkedIncidents state fingerprints ∧
      link.fingerprint = fingerprint := by
  rcases Tables.mem_activeFingerprints.mp hactive with
    ⟨link, hlink, hfingerprint, hdeleted, hincident⟩
  rcases h.linked link hlink with ⟨lastAlert, hlast, hsame⟩
  refine ⟨link, join_mem ?_ hrow (beq_iff_eq.mpr hincident), hfingerprint⟩
  refine List.mem_filter.mpr ⟨List.mem_map.mpr ⟨(lastAlert, link), ?_, rfl⟩, ?_⟩
  · refine join_mem hlast hlink ?_
    rw [hsame, hdeleted, beq_self_eq_true]
    rfl
  · rw [hfingerprint]
    exact List.contains_iff_mem.mpr hmem

/-- What a request leaves: its alerts are resolved, and some incidents are checked. -/
def Leaves (apiKeyName : Option String) (state : State) (fingerprints : List String)
    (after : State) : Prop :=
  exists ids,
    after = ⟨state.tables.resolve fingerprints, state.incidents.map fun row =>
      if row.incident.id ∈ ids then row.check (state.tables.resolve fingerprints) else row⟩ ∧
    (shouldCheckIncidentsResolution apiKeyName = false -> ids = []) ∧
    (shouldCheckIncidentsResolution apiKeyName = true -> forall row, row ∈ state.incidents ->
      forall fingerprint, fingerprint ∈ fingerprints ->
        fingerprint ∈ state.tables.activeFingerprints row.incident.id -> row.incident.id ∈ ids)

theorem leaves_of_unchecked {apiKeyName : Option String} (state : State)
    (fingerprints : List String) (h : shouldCheckIncidentsResolution apiKeyName = false) :
    Leaves apiKeyName state fingerprints
      { state with tables := state.tables.resolve fingerprints } := by
  refine ⟨[], ?_, fun _ => rfl, fun hchecks => ?_⟩
  · have hrows : (state.incidents.map fun row =>
        if row.incident.id ∈ ([] : List Nat) then row.check (state.tables.resolve fingerprints)
        else row) = state.incidents := by
      rw [List.map_congr_left fun row _ => if_neg List.not_mem_nil, List.map_id']
    rw [hrows]
  · rw [h] at hchecks
    cases hchecks

/-- The checks are made with the new alert states. -/
theorem leaves_of_checked {apiKeyName : Option String} (state : State)
    (fingerprints : List String) (h : shouldCheckIncidentsResolution apiKeyName = true)
    {ids : List Nat}
    (hids : forall row, row ∈ state.incidents -> forall fingerprint, fingerprint ∈ fingerprints ->
      fingerprint ∈ state.tables.activeFingerprints row.incident.id -> row.incident.id ∈ ids) :
    Leaves apiKeyName state fingerprints
      (ids.foldl State.check { state with tables := state.tables.resolve fingerprints }) := by
  refine ⟨ids, foldl_check ids _, fun hchecks => ?_, fun _ => hids⟩
  rw [h] at hchecks
  cases hchecks

/-- An active fingerprint has a last alert and the alert that it names. -/
theorem exists_alert {tables : Tables} (h : tables.WellFormed) {incidentId : Nat}
    {fingerprint : String} (hactive : fingerprint ∈ tables.activeFingerprints incidentId) :
    exists lastAlert alert, lastAlert ∈ tables.lastAlerts ∧ lastAlert.fingerprint = fingerprint ∧
      alert ∈ tables.alerts ∧ alert.id = lastAlert.alertId ∧ alert.fingerprint = fingerprint := by
  rcases Tables.mem_activeFingerprints.mp hactive with ⟨link, hlink, hfingerprint, _, _⟩
  rcases h.linked link hlink with ⟨lastAlert, hlast, hsame⟩
  rcases h.current lastAlert hlast with ⟨alert, halert, hid, hshared⟩
  have hkey : lastAlert.fingerprint = fingerprint := hsame.trans hfingerprint
  exact ⟨lastAlert, alert, hlast, hkey, halert, hid, hshared.trans hkey⟩

theorem enrichAlert_unchecked {apiKeyName : Option String}
    (h : shouldCheckIncidentsResolution apiKeyName = false) (fingerprint : String)
    (state : State) :
    enrichAlert apiKeyName fingerprint state =
      { state with tables := state.tables.resolve [fingerprint] } := by
  simp only [enrichAlert, h, Bool.false_eq_true, if_false]
  split
  · rfl
  · rfl

theorem enrichAlert_missing (apiKeyName : Option String) {fingerprint : String} {state : State}
    (h : (state.tables.resolve [fingerprint]).alerts.find?
      (fun alert => alert.fingerprint == fingerprint) = none) :
    enrichAlert apiKeyName fingerprint state =
      { state with tables := state.tables.resolve [fingerprint] } := by
  simp only [enrichAlert, h]

/-- The incidents of the fingerprint that is asked for are checked, of the alert that is found. -/
theorem enrichAlert_found {apiKeyName : Option String}
    (hchecks : shouldCheckIncidentsResolution apiKeyName = true) {fingerprint : String}
    {state : State} {alert : AlertRow}
    (h : (state.tables.resolve [fingerprint]).alerts.find?
      (fun alert => alert.fingerprint == fingerprint) = some alert) :
    enrichAlert apiKeyName fingerprint state =
      checkIncidentResolution { state with tables := state.tables.resolve [fingerprint] }
        fingerprint := by
  have hfound : (alert.fingerprint == fingerprint) = true :=
    List.find?_some (p := fun alert : AlertRow => alert.fingerprint == fingerprint) h
  have hsame : alert.fingerprint = fingerprint := beq_iff_eq.mp hfound
  simp only [enrichAlert, h, if_pos hchecks, hsame]

theorem leaves_enrichAlert (apiKeyName : Option String) {state : State}
    (h : state.tables.WellFormed) (fingerprint : String) :
    Leaves apiKeyName state [fingerprint] (enrichAlert apiKeyName fingerprint state) := by
  have hresolved : (state.tables.resolve [fingerprint]).WellFormed :=
    resolve_wellFormed h [fingerprint]
  cases hchecks : shouldCheckIncidentsResolution apiKeyName with
  | false =>
      rw [enrichAlert_unchecked hchecks]
      exact leaves_of_unchecked state [fingerprint] hchecks
  | true =>
      cases hfind : (state.tables.resolve [fingerprint]).alerts.find?
          fun alert => alert.fingerprint == fingerprint with
      | none =>
          rw [enrichAlert_missing apiKeyName hfind]
          -- No incident is checked, and none is linked to an alert that there is not.
          refine @leaves_of_checked apiKeyName state [fingerprint] hchecks [] ?_
          intro row _ active hactive hlinked
          rcases exists_alert h hlinked with ⟨_, alert, _, _, halert, _, hsame⟩
          have hnot := List.find?_eq_none.mp hfind alert halert
          rw [hsame, List.mem_singleton.mp hactive] at hnot
          exact absurd (beq_self_eq_true fingerprint) hnot
      | some alert =>
          rw [enrichAlert_found hchecks hfind]
          apply leaves_of_checked state [fingerprint] hchecks
          intro row hrow active hactive hlinked
          rcases @exists_linkedIncident { state with tables := state.tables.resolve [fingerprint] }
            hresolved row hrow active [fingerprint] hactive hlinked with ⟨link, hmem, _⟩
          exact List.mem_map.mpr ⟨(link, row), hmem, rfl⟩

theorem leaves_batchEnrichAlerts (apiKeyName : Option String) {state : State}
    (h : state.tables.WellFormed) (fingerprints : List String) :
    Leaves apiKeyName state fingerprints (batchEnrichAlerts apiKeyName fingerprints state) := by
  let resolved : State := { state with tables := state.tables.resolve fingerprints }
  have hresolved : resolved.tables.WellFormed := resolve_wellFormed h fingerprints
  let alertIds := (resolved.tables.lastAlerts.filter fun lastAlert =>
    fingerprints.contains lastAlert.fingerprint).map LastAlertRow.alertId
  let alerts := resolved.tables.alerts.filter fun alert => alertIds.contains alert.id
  have hstate : batchEnrichAlerts apiKeyName fingerprints state =
      if shouldCheckIncidentsResolution apiKeyName = true then
        ((enrichAlertsWithIncidents resolved alerts).flatMap Prod.snd).foldl State.check resolved
      else resolved := by
    unfold batchEnrichAlerts
    rw [foldl_resolve, List.foldl_flatMap]
  rw [hstate]
  cases hchecks : shouldCheckIncidentsResolution apiKeyName with
  | false => exact leaves_of_unchecked state fingerprints hchecks
  | true =>
      rw [if_pos rfl]
      apply leaves_of_checked state fingerprints hchecks
      intro row hrow active hactive hlinked
      rcases exists_alert hresolved hlinked with
        ⟨lastAlert, alert, hlast, hkey, halert, hid, hsame⟩
      have hrequested : lastAlert.alertId ∈ alertIds :=
        List.mem_map_of_mem (List.mem_filter.mpr ⟨hlast, by
          rw [hkey]
          exact List.contains_iff_mem.mpr hactive⟩)
      have hfetched : alert ∈ alerts := List.mem_filter.mpr ⟨halert, by
        rw [hid]
        exact List.contains_iff_mem.mpr hrequested⟩
      have hasked : active ∈ alerts.map AlertRow.fingerprint :=
        List.mem_map.mpr ⟨alert, hfetched, hsame⟩
      rcases exists_linkedIncident hresolved hrow hasked hlinked with ⟨link, hmem, hfingerprint⟩
      apply List.mem_flatMap.mpr
      refine ⟨_, List.mem_map_of_mem hfetched, ?_⟩
      apply List.mem_map.mpr
      refine ⟨(link, row), List.mem_filter.mpr ⟨hmem, ?_⟩, rfl⟩
      rw [hfingerprint, hsame]
      exact beq_self_eq_true active

theorem leaves_step (apiKeyName : Option String) {state : State} (h : state.tables.WellFormed)
    (request : Request) :
    Leaves apiKeyName state request.fingerprints (state.step apiKeyName request) := by
  cases request with
  | enrichAlert fingerprint => exact leaves_enrichAlert apiKeyName h fingerprint
  | batchEnrichAlerts fingerprints => exact leaves_batchEnrichAlerts apiKeyName h fingerprints

/-!
## Runs
-/

section

variable {apiKeyName : Option String}

theorem ids_step {state : State} (h : state.tables.WellFormed) (request : Request) :
    ((state.step apiKeyName request).incidents.map fun row => row.incident.id) =
      state.incidents.map fun row => row.incident.id := by
  rcases leaves_step apiKeyName h request with ⟨ids, hafter, _, _⟩
  rw [hafter, List.map_map]
  apply List.map_congr_left
  intro row _
  show (if row.incident.id ∈ ids then row.check _ else row).incident.id = row.incident.id
  split
  · exact check_id _ row
  · rfl

theorem wellFormed_step {state : State} (h : state.tables.WellFormed) (request : Request) :
    (state.step apiKeyName request).tables.WellFormed := by
  rcases leaves_step apiKeyName h request with ⟨ids, hafter, _, _⟩
  rw [hafter]
  exact resolve_wellFormed h request.fingerprints

theorem activeFingerprints_step {state : State} (h : state.tables.WellFormed) (request : Request)
    (id : Nat) :
    (state.step apiKeyName request).tables.activeFingerprints id =
      state.tables.activeFingerprints id := by
  rcases leaves_step apiKeyName h request with ⟨ids, hafter, _, _⟩
  rw [hafter]
  rfl

theorem isAllAlertsResolved_step {state : State} (h : state.tables.WellFormed)
    (request : Request) {incident : Incident}
    (hall : isAllAlertsResolved state.tables none (some incident) = true) :
    isAllAlertsResolved (state.step apiKeyName request).tables none (some incident) = true := by
  rcases leaves_step apiKeyName h request with ⟨ids, hafter, _, _⟩
  rw [hafter]
  exact isAllAlertsResolved_resolve hall request.fingerprints

/-- The incident as it was before and after, when nothing but its status can have changed. -/
structure Follows (before after : IncidentRow) : Prop where
  id : after.incident.id = before.incident.id
  resolveOn : after.resolveOn = before.resolveOn
  all : forall tables, isAllAlertsResolved tables none (some after.incident) =
    isAllAlertsResolved tables none (some before.incident)

theorem follows_check (tables : Tables) (row : IncidentRow) : Follows row (row.check tables) where
  id := check_id tables row
  resolveOn := check_resolveOn tables row
  all := fun others => isAllAlertsResolved_check tables others row

theorem Follows.trans {first second third : IncidentRow} (h : Follows first second)
    (h' : Follows second third) : Follows first third where
  id := h'.id.trans h.id
  resolveOn := h'.resolveOn.trans h.resolveOn
  all := fun tables => (h'.all tables).trans (h.all tables)

/-- The rule that the routes apply. -/
def Checked (apiKeyName : Option String) (tables : Tables) (row : IncidentRow) : Prop :=
  (shouldCheckIncidentsResolution apiKeyName = true ∧ row.resolveOn = .all) ∧
    isAllAlertsResolved tables none (some row.incident) = true

theorem Follows.checked_iff {before after : IncidentRow} (h : Follows before after)
    (tables : Tables) :
    Checked apiKeyName tables after <-> Checked apiKeyName tables before := by
  unfold Checked
  rw [h.resolveOn, h.all tables]

/-- One request with alerts of an incident. -/
theorem status_step {state : State} (h : state.tables.WellFormed) {row : IncidentRow}
    (hrow : row ∈ state.incidents) {request : Request} (hne : request.fingerprints ≠ [])
    (hactive : forall fingerprint, fingerprint ∈ request.fingerprints ->
      fingerprint ∈ state.tables.activeFingerprints row.incident.id) :
    exists after, after ∈ (state.step apiKeyName request).incidents ∧ Follows row after ∧
      (after.incident.status = .resolved <->
        row.incident.status = .resolved ∨
          Checked apiKeyName (state.step apiKeyName request).tables row) := by
  rcases leaves_step apiKeyName h request with ⟨ids, hafter, hskipped, hids⟩
  rw [hafter]
  refine ⟨_, List.mem_map_of_mem hrow, ?_⟩
  cases hchecks : shouldCheckIncidentsResolution apiKeyName with
  | false =>
      rw [hskipped hchecks, if_neg List.not_mem_nil]
      refine ⟨⟨rfl, rfl, fun _ => rfl⟩, (or_iff_left ?_).symm⟩
      intro hchecked
      exact Bool.false_ne_true (hchecks.symm.trans hchecked.1.1)
  | true =>
      rcases List.exists_mem_of_ne_nil _ hne with ⟨fingerprint, hmem⟩
      rw [if_pos (hids hchecks row hrow fingerprint hmem (hactive fingerprint hmem))]
      refine ⟨follows_check _ row, (check_status _ row).trans (or_congr_right ?_)⟩
      constructor
      · intro hcheck
        exact ⟨⟨hchecks, hcheck.1⟩, hcheck.2⟩
      · intro hchecked
        exact ⟨hchecked.1.2, hchecked.2⟩

theorem checked_run (requests : List Request) {state : State} (h : state.tables.WellFormed)
    {row : IncidentRow} (hchecked : Checked apiKeyName state.tables row) :
    Checked apiKeyName (requests.foldl (State.step apiKeyName) state).tables row := by
  induction requests generalizing state with
  | nil => exact hchecked
  | cons request rest ih =>
      rw [List.foldl_cons]
      apply ih (wellFormed_step h request)
      exact ⟨hchecked.1, isAllAlertsResolved_step h request hchecked.2⟩

theorem ids_run (requests : List Request) {state : State} (h : state.tables.WellFormed) :
    ((requests.foldl (State.step apiKeyName) state).incidents.map fun row => row.incident.id) =
      state.incidents.map fun row => row.incident.id := by
  induction requests generalizing state with
  | nil => rfl
  | cons request rest ih =>
      rw [List.foldl_cons, ih (wellFormed_step h request), ids_step h request]

/-- Requests with alerts of an incident, one after the other. -/
theorem status_run (requests : List Request) {state : State} (h : state.tables.WellFormed)
    {row : IncidentRow} (hrow : row ∈ state.incidents)
    (halerts : forall request, request ∈ requests -> request.fingerprints ≠ [] ∧
      forall fingerprint, fingerprint ∈ request.fingerprints ->
        fingerprint ∈ state.tables.activeFingerprints row.incident.id) :
    exists after, after ∈ (requests.foldl (State.step apiKeyName) state).incidents ∧
      Follows row after ∧
      (after.incident.status = .resolved <->
        row.incident.status = .resolved ∨ requests ≠ [] ∧
          Checked apiKeyName (requests.foldl (State.step apiKeyName) state).tables row) := by
  induction requests generalizing state row with
  | nil =>
      refine ⟨row, hrow, ⟨rfl, rfl, fun _ => rfl⟩, (or_iff_left ?_).symm⟩
      intro hnone
      exact hnone.1 rfl
  | cons request rest ih =>
      rcases halerts request List.mem_cons_self with ⟨hne, hactive⟩
      rcases @status_step apiKeyName _ h _ hrow _ hne hactive with
        ⟨first, hfirst, hfollows, hstatus⟩
      have hwellFormed : (state.step apiKeyName request).tables.WellFormed :=
        wellFormed_step h request
      have hrest : forall request', request' ∈ rest -> request'.fingerprints ≠ [] ∧
          forall fingerprint, fingerprint ∈ request'.fingerprints ->
            fingerprint ∈ (state.step apiKeyName request).tables.activeFingerprints
              first.incident.id := by
        intro request' hmem
        rw [hfollows.id, activeFingerprints_step h request]
        exact halerts request' (List.mem_cons_of_mem request hmem)
      rcases ih hwellFormed hfirst hrest with ⟨last, hlast, hthen, hfinally⟩
      refine ⟨last, hlast, hfollows.trans hthen, ?_⟩
      rw [hfinally, hfollows.checked_iff, hstatus, List.foldl_cons]
      constructor
      · intro hor
        rcases hor with (hbefore | hnow) | ⟨_, hlater⟩
        · exact Or.inl hbefore
        · exact Or.inr ⟨List.cons_ne_nil request rest, checked_run rest hwellFormed hnow⟩
        · exact Or.inr ⟨List.cons_ne_nil request rest, hlater⟩
      · intro hor
        rcases hor with hbefore | ⟨_, hchecked⟩
        · exact Or.inl (Or.inl hbefore)
        · cases rest with
          | nil => exact Or.inl (Or.inr hchecked)
          | cons other rest => exact Or.inr ⟨List.cons_ne_nil other rest, hchecked⟩

end

/-- The row of an incident is the only one with its id. -/
theorem UserRun.row_unique (run : UserRun) {row other : IncidentRow}
    (hrow : row ∈ run.after.incidents) (hother : other ∈ run.after.incidents)
    (h : row.incident.id = other.incident.id) : row = other := by
  have hkeys : (run.after.incidents.map fun row => row.incident.id).Nodup := by
    unfold UserRun.after
    rw [ids_run run.requests run.wellFormed]
    exact run.primaryKey
  exact List.inj_on_of_nodup_map hkeys hrow hother h

theorem shouldResolve_of_checked {apiKeyName : Option String} (database : Database)
    {tables : Tables} {row : IncidentRow} (h : Checked apiKeyName tables row) :
    shouldResolve database tables row = .ok true := by
  unfold shouldResolve
  rw [h.1.2]
  exact congrArg Except.ok h.2

theorem checked_of_shouldResolve {apiKeyName : Option String} {database : Database}
    {tables : Tables} {row : IncidentRow}
    (h : row.resolveOn = .all ∧ shouldCheckIncidentsResolution apiKeyName = true)
    (hresolve : shouldResolve database tables row = .ok true) :
    Checked apiKeyName tables row := by
  unfold shouldResolve at hresolve
  rw [h.1] at hresolve
  exact ⟨⟨h.2, h.1⟩, Except.ok.inj hresolve⟩

/-- Both routes apply one of the three rules only, and for some users none. -/
theorem appliesRule_iff (database : Database) (run : UserRun) :
    run.AppliesRule database <->
      (run.row.resolveOn = .all ∧ shouldCheckIncidentsResolution run.apiKeyName = true) ∨
        run.row.incident.status = .resolved ∨
          shouldResolve database run.after.tables run.row ≠ .ok true := by
  rcases @status_run run.apiKeyName run.requests _ run.wellFormed _ run.mem run.alerts with
    ⟨after, hafter, hfollows, hstatus⟩
  constructor
  · intro h
    rcases h with ⟨row, hrow, hid, happlies⟩
    have hsame : row = after := run.row_unique hrow hafter (hid.trans hfollows.id.symm)
    rw [hsame, hstatus] at happlies
    rcases Classical.em (shouldResolve database run.after.tables run.row = .ok true) with
      hresolve | hnot
    · rcases happlies.mpr (Or.inr hresolve) with hbefore | ⟨_, hchecked⟩
      · exact Or.inr (Or.inl hbefore)
      · exact Or.inl ⟨hchecked.1.2, hchecked.1.1⟩
    · exact Or.inr (Or.inr hnot)
  · intro h
    refine ⟨after, hafter, hfollows.id, hstatus.trans ?_⟩
    constructor
    · intro hor
      rcases hor with hbefore | ⟨_, hchecked⟩
      · exact Or.inl hbefore
      · exact Or.inr (shouldResolve_of_checked database hchecked)
    · intro hor
      rcases hor with hbefore | hresolve
      · exact Or.inl hbefore
      · rcases h with hrule | hbefore | hnot
        · exact Or.inr ⟨run.requested, checked_of_shouldResolve hrule hresolve⟩
        · exact Or.inl hbefore
        · exact absurd hresolve hnot

namespace RouteSample

/-- A database that takes the first row of a group. -/
def database : Database where
  takesUngrouped := true
  ungrouped := fun row _ => row
  ungrouped_mem := fun _ _ => List.mem_cons_self

def tables : Tables where
  alerts := [⟨1, "a", 1, some "firing"⟩]
  lastAlerts := [⟨"a", 1, none⟩]
  links := [⟨7, "a", none⟩]

def row : IncidentRow where
  incident :=
    { id := 7
      status := .firing
      mergedInto := none
      mergedBy := none
      severity := 0
      forcedSeverity := false
      alertsCount := 1
      affectedServices := []
      sources := [] }
  resolveOn := .first

theorem wellFormed : tables.WellFormed where
  alertKey := List.nodup_singleton 1
  lastAlertKey := List.nodup_singleton "a"
  linked := by decide
  current := by decide

/-- A user resolves the only alert of an incident that is resolved with its first one. -/
def run : UserRun where
  state := ⟨tables, [row]⟩
  row := row
  apiKeyName := none
  requests := [.enrichAlert "a"]
  wellFormed := wellFormed
  primaryKey := List.nodup_singleton 7
  mem := List.mem_cons_self
  rule := nofun
  requested := List.cons_ne_nil _ _
  alerts := by decide

end RouteSample

open RouteSample in
theorem firstResolved_not_appliesRule :
    ¬ forall (database : Database) (run : UserRun), run.AppliesRule database := by
  intro h
  rcases h database run with ⟨after, hafter, _, hiff⟩
  have hresolve : shouldResolve database run.after.tables row = .ok true := by decide
  have hfiring : run.after.incidents = [row] := by decide
  rw [hfiring, List.mem_singleton] at hafter
  have hresolved := hiff.mpr (Or.inr hresolve)
  rw [hafter] at hresolved
  cases hresolved

end ResolvingRoutes
end Incidents
end KeepGateway
