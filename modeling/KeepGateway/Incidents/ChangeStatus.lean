import KeepGateway.Enrichments.Batch
import KeepGateway.Incidents.Store

/-!
# Changing the status of an incident

`IncidentBl.change_status`.  The enrichments of the linked alerts are a call of the
async `batch_enrich`, which returns a coroutine: nothing runs before it is awaited.
-/

namespace KeepGateway
namespace Incidents
namespace ChangeStatus

open Enrichments (Audit Action Context EnrichFailure Fields Tables Value)
open Transactions

variable {σ ε τ : Type}

/-- What awaiting a coroutine does to the state, and the exception that ends it. -/
abbrev Coroutine (σ ε : Type) := σ -> σ × Option ε

def Coroutine.await (c : Coroutine σ ε) (s : σ) : σ × Option ε := c s

/-- A coroutine that is created and not awaited. -/
def Coroutine.create (_c : Coroutine σ ε) (s : σ) : σ := s

structure AuthenticatedEntity where
  email : String
  apiKeyName : Option String

/-- `IncidentStatus.value` -/
def value : Status -> String
  | .firing => "firing"
  | .resolved => "resolved"
  | .acknowledged => "acknowledged"
  | .merged => "merged"
  | .deleted => "deleted"

/-- The columns of `incident` that the call writes. -/
structure Row (τ : Type) where
  id : Nat
  status : String
  assignee : Option String
  endTime : Option τ

/-- The tables of one tenant; `alerts` has the id and the fingerprint of each alert. -/
structure Database (τ : Type) where
  incidents : List (Row τ)
  links : List Link
  alerts : List (Nat × String)
  tables : Tables τ

namespace Database

def find (db : Database τ) (id : Nat) : Option (Row τ) :=
  db.incidents.find? fun row => row.id == id

def update (db : Database τ) (id : Nat) (f : Row τ -> Row τ) : Database τ :=
  { db with incidents := db.incidents.map fun row => if row.id = id then f row else row }

def audits (db : Database τ) : List Audit := db.tables.incidents.audits

def addAudit (db : Database τ) (audit : Audit) : Database τ :=
  { db with
    tables := { db.tables with incidents := db.tables.incidents.addAudits [audit] } }

/-- The active links of an incident with a fingerprint. -/
def linksTo (db : Database τ) (id : Nat) (fingerprint : String) : List Link :=
  db.links.filter fun l => l.incident = id ∧ l.fingerprint = fingerprint ∧ l.deletedAt = none

/-- `[alert.fingerprint for alert in incident.alerts]`: the alert rows of the last alerts
that are linked to the incident. -/
def fingerprints (db : Database τ) (id : Nat) : List String :=
  db.tables.lastAlerts.flatMap fun entry =>
    (db.linksTo id entry.1).flatMap fun _ =>
      (db.alerts.filter fun alert => alert.1 = entry.2.alertId).map Prod.snd

end Database

/-- `get_enrichment_metadata` for a dictionary that has a status alone: the action, its
description and `should_check_incidents_resolution`. -/
def getEnrichmentMetadata (status : String) (entity : AuthenticatedEntity) :
    String × String × Bool :=
  let resolved := status == "resolved"
  let generic :=
    ("alert enriched",
      "Alert enriched by " ++ entity.email ++ " - \x7b'status': '" ++ status ++ "'\x7d", false)
  match entity.apiKeyName with
  | none =>
      (if resolved then "alert manually resolved" else "alert status manually changed",
        "Alert status was changed to " ++ status ++ " by " ++ entity.email, resolved)
  | some name =>
      if name = "" then generic
      else
        (if resolved then "alert automatically resolved by API"
          else "alert status changed by API",
          "Alert status was changed to " ++ status ++ " by API `" ++ name ++ "`", resolved)

/-- `EnrichmentsBl.enrich_entity` on an alert, strict and not forced. -/
def enrichEntity (ctx : Context τ) (e : Fields τ) (disposeOnNewAlert : Bool) (db : Tables τ)
    (fingerprint : String) : Except EnrichFailure (Tables τ) := do
  let normalized <- (Enrichments.normalizedForm e disposeOnNewAlert true).mapError .enrichment
  let written <- (Enrichments.normalizeEnrichments normalized true).mapError .enrichment
  let rows <- ctx.writeLastAlert written db.lastAlerts fingerprint
  .ok (ctx.addAudit { db with lastAlerts := rows } fingerprint)

/-- `EnrichmentsBl.batch_enrich` -/
def batchEnrich (ctx : Context τ) (fingerprints : List String) (e : Fields τ)
    (disposeOnNewAlert : Bool) : Coroutine (Tables τ) EnrichFailure := fun db =>
  inSequence (enrichEntity ctx e disposeOnNewAlert) db fingerprints

structure HttpException where
  statusCode : Nat
  detail : String

/-- A call of `change_status`, with the time it runs at. -/
structure Call (τ : Type) where
  incidentId : Nat
  newStatus : Status
  changeBy : AuthenticatedEntity
  disposeOnNewAlert : Bool
  now : τ

namespace Call

variable (call : Call τ)

/-- `{"status": new_status.value}` -/
def enrichments : Fields τ := [("status", .text (value call.newStatus))]

/-- The statuses that are written to the alerts. -/
def withAlerts : Bool :=
  match call.newStatus with
  | .resolved | .acknowledged => true
  | _ => false

/-- What the audit rows of the enrichments say. -/
def action : Action :=
  let metadata := getEnrichmentMetadata (value call.newStatus) call.changeBy
  { actionType := metadata.1
    actionCallee := call.changeBy.email
    actionDescription := metadata.2.1 }

/-- The coroutine of the enrichments, over the surroundings `ctx`. -/
def coroutine (ctx : Context τ) (db : Database τ) : Coroutine (Tables τ) EnrichFailure :=
  batchEnrich { ctx with action := call.action } (db.fingerprints call.incidentId)
    call.enrichments call.disposeOnNewAlert

def audit (ctx : Context τ) (actionType description : String) : Audit :=
  let action : Action :=
    { actionType := actionType
      actionCallee := call.changeBy.email
      actionDescription := description }
  action.audit ctx.tenantId (ctx.str call.incidentId)

def assignAudit (ctx : Context τ) : Audit :=
  call.audit ctx "Incident assigned" ("Incident self-assigned to " ++ call.changeBy.email)

def statusAudit (ctx : Context τ) (oldStatus : String) : Audit :=
  call.audit ctx "Incident status changed"
    ("Incident status changed from " ++ oldStatus ++ " to " ++ value call.newStatus)

/-- `if new_status == IncidentStatus.RESOLVED` -/
def setEndTime (row : Row τ) : Row τ :=
  if call.newStatus = .resolved then { row with endTime := some call.now } else row

def setAssignee (row : Row τ) : Row τ :=
  if row.assignee ≠ some call.changeBy.email then
    { row with assignee := some call.changeBy.email }
  else row

def setStatus (row : Row τ) : Row τ := { row with status := value call.newStatus }

/-- `if incident.assignee != change_by.email` -/
def addAssignAudit (ctx : Context τ) (row : Row τ) (db : Database τ) : Database τ :=
  if row.assignee ≠ some call.changeBy.email then db.addAudit (call.assignAudit ctx) else db

/-- The writes to the incident and its audit rows. -/
def writeIncident (ctx : Context τ) (row : Row τ) (db : Database τ) : Database τ :=
  let db := db.update call.incidentId call.setEndTime
  let db := (call.addAssignAudit ctx row db).update call.incidentId call.setAssignee
  let db := db.addAudit (call.statusAudit ctx row.status)
  db.update call.incidentId call.setStatus

/-- `change_status` -/
def run (ctx : Context τ) (db : Database τ) : Except HttpException (Database τ) :=
  match db.find call.incidentId with
  | none => .error ⟨404, "Incident not found"⟩
  | some row =>
      let tables :=
        if call.withAlerts then (call.coroutine ctx db).create db.tables else db.tables
      .ok (call.writeIncident ctx row { db with tables := tables })

/-!
## What a call leaves
-/

/-- Every last alert that is linked to the incident has the new status. -/
def Carried (db : Database τ) : Prop :=
  forall link, link ∈ db.links -> link.incident = call.incidentId -> link.deletedAt = none ->
    forall row, db.tables.lastAlerts.lookup link.fingerprint = some row ->
      row.status = some (value call.newStatus)

/-- The row of the incident after the call. -/
def written (row : Row τ) : Row τ where
  id := row.id
  status := value call.newStatus
  assignee := some call.changeBy.email
  endTime := if call.newStatus = .resolved then some call.now else row.endTime

/-- The audit rows that the call adds for the incident. -/
def newAudits (ctx : Context τ) (row : Row τ) : List Audit :=
  (if row.assignee ≠ some call.changeBy.email then [call.assignAudit ctx] else []) ++
    [call.statusAudit ctx row.status]

/-- The incident row, its end time and its audit rows are written. -/
def Written (ctx : Context τ) (db db' : Database τ) : Prop :=
  exists row, db.find call.incidentId = some row ∧
    db'.find call.incidentId = some (call.written row) ∧
    db'.audits = db.audits ++ call.newAudits ctx row

theorem setStatus_setAssignee_setEndTime (row : Row τ) :
    call.setStatus (call.setAssignee (call.setEndTime row)) = call.written row := by
  have hassignee : (call.setEndTime row).assignee = row.assignee := by
    unfold setEndTime
    split <;> rfl
  unfold setStatus setAssignee written
  rw [hassignee]
  split
  · unfold setEndTime
    split <;> rfl
  · rename_i hsame
    have hsame : row.assignee = some call.changeBy.email := not_not.mp hsame
    rw [← hsame]
    unfold setEndTime
    split <;> rfl

end Call

namespace Database

theorem find_update {db : Database τ} {id : Nat} {row : Row τ} (f : Row τ -> Row τ)
    (hf : forall row, (f row).id = row.id) (h : db.find id = some row) :
    (db.update id f).find id = some (f row) := by
  unfold find update at *
  generalize db.incidents = rows at h
  induction rows with
  | nil => cases h
  | cons first rest ih =>
      rcases Classical.em (first.id = id) with hid | hid
      · rw [List.find?_cons_of_pos (by simp [hid])] at h
        cases h
        rw [List.map_cons, if_pos hid, List.find?_cons_of_pos (by simp [hf, hid])]
      · rw [List.find?_cons_of_neg (by simp [hid])] at h
        rw [List.map_cons, if_neg hid, List.find?_cons_of_neg (by simp [hid])]
        exact ih h

@[simp]
theorem audits_update (db : Database τ) (id : Nat) (f : Row τ -> Row τ) :
    (db.update id f).audits = db.audits :=
  rfl

@[simp]
theorem audits_addAudit (db : Database τ) (audit : Audit) :
    (db.addAudit audit).audits = db.audits ++ [audit] :=
  rfl

@[simp]
theorem find_addAudit (db : Database τ) (audit : Audit) (id : Nat) :
    (db.addAudit audit).find id = db.find id :=
  rfl

end Database

namespace Call

variable {call : Call τ} {ctx : Context τ} {row : Row τ} {db db' : Database τ}

theorem setEndTime_id (row : Row τ) : (call.setEndTime row).id = row.id := by
  unfold setEndTime
  split <;> rfl

theorem setAssignee_id (row : Row τ) : (call.setAssignee row).id = row.id := by
  unfold setAssignee
  split <;> rfl

/-- The audit row of the assignee leaves everything but the audit rows alone. -/
theorem addAssignAudit_frame (call : Call τ) (ctx : Context τ) (row : Row τ) (db : Database τ) :
    (call.addAssignAudit ctx row db).find = db.find ∧
      (call.addAssignAudit ctx row db).links = db.links ∧
      (call.addAssignAudit ctx row db).tables.lastAlerts = db.tables.lastAlerts := by
  unfold addAssignAudit
  split <;> exact ⟨rfl, rfl, rfl⟩

theorem audits_addAssignAudit :
    (call.addAssignAudit ctx row db).audits =
      db.audits ++ if row.assignee ≠ some call.changeBy.email then [call.assignAudit ctx]
        else [] := by
  unfold addAssignAudit
  split
  · rfl
  · rw [List.append_nil]

theorem find_writeIncident (h : db.find call.incidentId = some row) :
    (call.writeIncident ctx row db).find call.incidentId = some (call.written row) := by
  have hend := db.find_update call.setEndTime setEndTime_id h
  have haudit : (call.addAssignAudit ctx row (db.update call.incidentId call.setEndTime)).find
      call.incidentId = some (call.setEndTime row) := by
    rw [(addAssignAudit_frame call ctx row _).1]
    exact hend
  have hassignee := Database.find_update call.setAssignee setAssignee_id haudit
  have hstatus := Database.find_update call.setStatus (fun _ => rfl)
    ((Database.find_addAudit _ (call.statusAudit ctx row.status) _).trans hassignee)
  rw [setStatus_setAssignee_setEndTime] at hstatus
  exact hstatus

theorem audits_writeIncident :
    (call.writeIncident ctx row db).audits = db.audits ++ call.newAudits ctx row := by
  unfold writeIncident newAudits
  simp only [Database.audits_update, Database.audits_addAudit, audits_addAssignAudit,
    List.append_assoc]

/-- The writes to the incident leave the alerts and their links alone. -/
theorem writeIncident_frame :
    (call.writeIncident ctx row db).links = db.links ∧
      (call.writeIncident ctx row db).tables.lastAlerts = db.tables.lastAlerts := by
  constructor
  · exact (addAssignAudit_frame call ctx row (db.update call.incidentId call.setEndTime)).2.1
  · exact (addAssignAudit_frame call ctx row (db.update call.incidentId call.setEndTime)).2.2

/-- A call that returns writes the incident and nothing else. -/
theorem run_eq_ok (h : call.run ctx db = .ok db') :
    exists row, db.find call.incidentId = some row ∧ db' = call.writeIncident ctx row db := by
  unfold run at h
  cases hfind : db.find call.incidentId with
  | none =>
      rw [hfind] at h
      cases h
  | some row =>
      rw [hfind] at h
      refine ⟨row, rfl, ?_⟩
      have hsame : (if call.withAlerts = true then (call.coroutine ctx db).create db.tables
          else db.tables) = db.tables := by
        split <;> rfl
      simp only [hsame] at h
      exact (Except.ok.inj h).symm

theorem run_written (h : call.run ctx db = .ok db') : call.Written ctx db db' := by
  rcases run_eq_ok h with ⟨row, hfind, heq⟩
  rw [heq]
  exact ⟨row, hfind, find_writeIncident hfind, audits_writeIncident⟩

theorem run_carried_iff (h : call.run ctx db = .ok db') : call.Carried db' <-> call.Carried db := by
  rcases run_eq_ok h with ⟨row, _, heq⟩
  have hframe : db'.links = db.links ∧ db'.tables.lastAlerts = db.tables.lastAlerts := by
    rw [heq]
    exact writeIncident_frame
  unfold Carried
  rw [hframe.1, hframe.2]

end Call

/-!
## What awaiting would have done
-/

section Awaited

variable {ctx : Context τ} {status : String} {dispose : Bool} {db db' : Tables τ}

/-- The columns that the enrichments of a status write. -/
def statusColumns (status : String) (dispose : Bool) : Fields τ :=
  [("status", .text status), ("status_disposable", .bool dispose)]

theorem normalizedForm_status (status : String) (dispose : Bool) :
    Enrichments.normalizedForm ([("status", .text status)] : Fields τ) dispose true =
      .ok (statusColumns status dispose) :=
  rfl

/-- The columns keep a text and a Boolean as they are. -/
structure KeepsStatus (st : Enrichments.Storage τ) : Prop where
  text : forall s, st.text (.text s) = some s
  flag : forall b, st.flag (.bool b) = some b

theorem enrichEntity_status (hst : KeepsStatus ctx.storage) (status : String) (dispose : Bool)
    (db : Tables τ) (fingerprint : String) :
    exists db', enrichEntity ctx [("status", .text status)] dispose db fingerprint = .ok db' ∧
      forall key, db'.lastAlerts.lookup key =
        if fingerprint = key then
          (db.lastAlerts.lookup key).map fun row =>
            { row with status := some status, statusDisposable := dispose }
        else db.lastAlerts.lookup key := by
  have hrow : forall row : Enrichments.LastAlert τ,
      Enrichments.applyEnrichmentsToLastAlert ctx.storage false row (statusColumns status dispose) =
        .ok { row with status := some status, statusDisposable := dispose } := by
    intro row
    simp [Enrichments.applyEnrichmentsToLastAlert, statusColumns, Enrichments.LastAlert.set,
      Enrichments.Storage.nullableText, Enrichments.Storage.notNullFlag, hst.text, hst.flag]
  unfold enrichEntity
  rw [normalizedForm_status]
  cases hlookup : db.lastAlerts.lookup fingerprint with
  | none =>
      refine ⟨ctx.addAudit db fingerprint, ?_, ?_⟩
      · show (ctx.writeLastAlert (statusColumns status dispose) db.lastAlerts fingerprint >>=
          fun rows => Except.ok (ctx.addAudit { db with lastAlerts := rows } fingerprint)) = _
        unfold Context.writeLastAlert
        rw [hlookup]
        rfl
      · intro key
        split
        · rename_i hkey
          rw [← hkey]
          show db.lastAlerts.lookup fingerprint = _
          rw [hlookup]
          rfl
        · rfl
  | some row =>
      let new := { row with status := some status, statusDisposable := dispose }
      refine ⟨ctx.addAudit { db with lastAlerts := Dict.set fingerprint new db.lastAlerts }
        fingerprint, ?_, ?_⟩
      · show (ctx.writeLastAlert (statusColumns status dispose) db.lastAlerts fingerprint >>=
          fun rows => Except.ok (ctx.addAudit { db with lastAlerts := rows } fingerprint)) = _
        unfold Context.writeLastAlert
        rw [hlookup]
        simp only [hrow]
        rfl
      · intro key
        show (Dict.set fingerprint _ db.lastAlerts).lookup key = _
        rw [Dict.lookup_set]
        split
        · rename_i hkey
          rw [← hkey, hlookup]
          rfl
        · rfl

/-- One call keeps the status of the rows that have it already. -/
theorem enrichEntity_keeps (hst : KeepsStatus ctx.storage) {fingerprint key : String}
    (h : enrichEntity ctx [("status", .text status)] dispose db fingerprint = .ok db')
    (hkey : fingerprint = key ∨ forall row, db.lastAlerts.lookup key = some row ->
      row.status = some status) :
    forall row, db'.lastAlerts.lookup key = some row -> row.status = some status := by
  intro row hrow
  rcases enrichEntity_status hst status dispose db fingerprint with ⟨t, ht, hlookup⟩
  rw [h] at ht
  cases ht
  rw [hlookup] at hrow
  split at hrow
  · rcases Option.map_eq_some_iff.mp hrow with ⟨old, _, heq⟩
    rw [← heq]
  · rename_i hne
    exact (hkey.resolve_left hne) row hrow

/-- Awaiting the coroutine ends normally and leaves every row it lists with the status. -/
theorem await_batchEnrich (hst : KeepsStatus ctx.storage) (db : Tables τ)
    (fingerprints : List String) :
    let ended := (batchEnrich ctx fingerprints [("status", .text status)] dispose).await db
    ended.2 = none ∧ forall key, key ∈ fingerprints ∨
        (forall row, db.lastAlerts.lookup key = some row -> row.status = some status) ->
      forall row, ended.1.lastAlerts.lookup key = some row -> row.status = some status := by
  intro ended
  show (inSequence _ db fingerprints).2 = none ∧ forall key, _ ->
    forall row, (inSequence _ db fingerprints).1.lastAlerts.lookup key = some row -> _
  clear ended
  induction fingerprints generalizing db with
  | nil =>
      refine ⟨rfl, ?_⟩
      intro key h
      exact h.resolve_left List.not_mem_nil
  | cons fingerprint rest ih =>
      rcases enrichEntity_status hst status dispose db fingerprint with ⟨t, ht, _⟩
      rw [inSequence_of_ok ht]
      rcases ih t with ⟨hends, hrows⟩
      refine ⟨hends, ?_⟩
      intro key h
      apply hrows key
      rcases h with hmem | hold
      · rcases List.mem_cons.mp hmem with heq | hrest
        · exact Or.inr (enrichEntity_keeps hst ht (Or.inl heq.symm))
        · exact Or.inl hrest
      · exact Or.inr (enrichEntity_keeps hst ht (Or.inr hold))

end Awaited

/-!
## Whether the status reaches the alerts
-/

/-- A call that returns has carried the status to the linked alerts where they had it. -/
theorem carries_iff {ctx : Context τ} {db db' : Database τ} {call : Call τ}
    (h : call.run ctx db = .ok db') :
    call.Carried db' ∧ call.Written ctx db db' <-> call.Carried db := by
  constructor
  · intro hafter
    exact (Call.run_carried_iff h).mp hafter.1
  · intro hbefore
    exact ⟨(Call.run_carried_iff h).mpr hbefore, Call.run_written h⟩

namespace Sample

def storage : Enrichments.Storage Nat where
  text
    | .text s => some s
    | _ => none
  time
    | .time t => some t
    | _ => none
  flag
    | .bool b => some b
    | _ => none
  flag_truthy := by
    intro v b h
    cases v with
    | bool c =>
        cases h
        rfl
    | _ => cases h

def ctx : Context Nat where
  storage := storage
  uuid := fun _ => none
  str := fun _ => "5"
  tenantId := "keep"
  action := ⟨"", "", ""⟩

def lastAlert : Enrichments.LastAlert Nat :=
  { Enrichments.newLastAlert ⟨1, 10, none, some "firing"⟩ with status := some "firing" }

/-- One firing incident with one linked alert, which fires. -/
def db : Database Nat where
  incidents := [⟨5, "firing", none, none⟩]
  links := [⟨5, "disk", none⟩]
  alerts := [(1, "disk")]
  tables :=
    { lastAlerts := [("disk", lastAlert)]
      incidents := ⟨[5], [], [], List.nodup_nil⟩ }

def resolve : Call Nat where
  incidentId := 5
  newStatus := .resolved
  changeBy := ⟨"ops@keep", none⟩
  disposeOnNewAlert := false
  now := 20

def resolved : Database Nat := resolve.writeIncident ctx ⟨5, "firing", none, none⟩ db

theorem run_resolve : resolve.run ctx db = .ok resolved := rfl

theorem not_carried : ¬ resolve.Carried db := by
  intro h
  have hstatus := h ⟨5, "disk", none⟩ (List.mem_singleton.mpr rfl) rfl rfl lastAlert rfl
  exact absurd hstatus (by decide)

/-- What awaiting the coroutine of the call would have left on the row of the alert. -/
example :
    (((resolve.coroutine ctx db).await db.tables).1.lastAlerts.lookup "disk").map
      Enrichments.LastAlert.status = some (some "resolved") := by
  decide

end Sample

theorem carries_iff_resolve :
    Sample.resolve.Carried Sample.resolved ∧
        Sample.resolve.Written Sample.ctx Sample.db Sample.resolved <->
      Sample.resolve.Carried Sample.db :=
  carries_iff rfl

/-- Resolving an incident whose linked alert fires leaves the alert firing. -/
theorem linked_alert_still_firing :
    ¬ forall (ctx : Context Nat) (call : Call Nat) (db db' : Database Nat),
      call.newStatus = .resolved ∨ call.newStatus = .acknowledged ->
        call.run ctx db = .ok db' -> call.Carried db' ∧ call.Written ctx db db' := by
  intro h
  have hafter := h Sample.ctx Sample.resolve Sample.db Sample.resolved (Or.inl rfl)
    Sample.run_resolve
  exact Sample.not_carried ((Call.run_carried_iff Sample.run_resolve).mp hafter.1)

end ChangeStatus
end Incidents
end KeepGateway
