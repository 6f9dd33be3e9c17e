import KeepGateway.Enrichments.ElasticDocument

/-!
# Alerts as DTOs

`convert_db_alerts_to_dto_alerts`: the DTO of an alert, made of its own columns and of the columns
of its last alert.
-/

namespace KeepGateway
namespace Enrichments
namespace Conversion

variable {τ : Type}

/-- The columns of `alert` that the DTO checks, and those that name it. -/
structure AlertRow where
  tenantId : String
  fingerprint : String
  id : String
  providerType : String
  providerId : Option String
  name : Option String
  status : Option String
  severity : Option String
  environment : String
  deriving DecidableEq, Repr

def AlertRow.key (alert : AlertRow) : String × String := (alert.tenantId, alert.fingerprint)

/-- `alert.dict()` -/
def AlertRow.dict (alert : AlertRow) : Fields τ :=
  [("id", .text alert.id), ("fingerprint", .text alert.fingerprint),
    ("provider_type", .text alert.providerType), ("provider_id", ofText alert.providerId),
    ("name", ofText alert.name), ("status", ofText alert.status),
    ("severity", ofText alert.severity), ("environment", .text alert.environment)]

/-- An alert as the query found it, with the last alert that the query attached. -/
structure QueriedAlert (τ : Type) where
  alert : AlertRow
  lastAlert : Option (LastAlert τ)
  startedAt : Option String

/-!
## The last alert
-/

/-- A counter, a NOT NULL column with the default 0. -/
def counter (row : LastAlert τ) (column : String) : Int :=
  match row.tracking.lookup column with
  | some (.number n) => n
  | _ => 0

def trackedText (row : LastAlert τ) (column : String) : Option String :=
  match row.tracking.lookup column with
  | some (.text s) => some s
  | _ => none

def trackedTime (row : LastAlert τ) (column : String) : Option τ :=
  match row.tracking.lookup column with
  | some (.time t) => some t
  | _ => none

/-- What the columns contribute, with nothing where a column is NULL. -/
def contributions (fm : Formats τ) (row : LastAlert τ) : List (String × Option (Value τ)) :=
  [("status", row.status.map .text), ("assignee", row.assignee.map .text),
    ("note", row.note.map .text), ("dismiss_mode", row.dismissMode.map .text),
    ("dismissed_until", row.dismissedUntil.map fun t => .text (fm.strftime t)),
    ("dismiss_until", row.dismissedUntil.map fun t => .text (fm.strftime t)),
    ("deleted", some (.bool row.deleted)),
    ("last_received", (trackedTime row "last_received").map .time),
    ("firing_counter", some (.number (counter row "firing_counter"))),
    ("unresolved_counter", some (.number (counter row "unresolved_counter"))),
    ("firing_start_time", (trackedText row "firing_start_time").map .text),
    ("firing_start_time_since_last_resolved",
      (trackedText row "firing_start_time_since_last_resolved").map .text)]

/-- `_last_alert_to_dto_payload` -/
def lastAlertToDtoPayload (fm : Formats τ) (row : LastAlert τ) : Fields τ :=
  Dict.present (contributions fm row)

/-!
## The DTO
-/

inductive AlertSeverity where
  | critical
  | high
  | warning
  | info
  | low
  deriving DecidableEq, Repr

namespace AlertSeverity

def value : AlertSeverity -> String
  | critical => "critical"
  | high => "high"
  | warning => "warning"
  | info => "info"
  | low => "low"

/-- `AlertSeverity(severity)`; an unknown severity becomes INFO. -/
def ofValue : Value τ -> AlertSeverity
  | .text s => ([critical, high, warning, info, low].find? fun severity =>
      severity.value == s).getD info
  | _ => info

end AlertSeverity

/-- `AlertEnvironment(environment).value`, for an unknown one that of PRODUCTION. -/
def environmentOf : Value τ -> String
  | .text s =>
      if s ∈ ["production", "integration", "load", "development", "test"] then s else "production"
  | _ => "production"

/-- The fields of an `AlertDto` that a user, the tracking of the alert or a check can change. -/
structure AlertDto (τ : Type) where
  id : Value τ
  eventId : String
  fingerprint : Value τ
  providerType : String
  providerId : Option String
  name : Value τ
  status : String
  severity : String
  environment : String
  lastReceived : String
  firingStartTime : Value τ
  firingStartTimeSinceLastResolved : Value τ
  firingCounter : Int
  unresolvedCounter : Int
  startedAt : Value τ
  assignee : Value τ
  note : Value τ
  dismissMode : Value τ
  dismissUntil : Value τ
  dismissedUntil : Value τ
  deleted : Bool
  ticketType : Value τ
  ticketUrl : Value τ
  ticketProviderId : Value τ
  deriving DecidableEq, Repr

/-- `payload.get(key)` -/
def get (payload : Fields τ) (key : String) : Value τ := (payload.lookup key).getD .none

/-- A field of type `int` with the default 0. -/
def getInt (payload : Fields τ) (key : String) : Int :=
  match payload.lookup key with
  | some (.number n) => n
  | _ => 0

/-- `AlertDto(**payload)`.  The columns are of the types of the fields, so that none is refused. -/
def AlertDto.ofPayload (fm : Formats τ) (now : τ) (alert : AlertRow) (payload : Fields τ) :
    AlertDto τ where
  id := get payload "id"
  eventId := alert.id
  fingerprint := get payload "fingerprint"
  providerType := alert.providerType
  providerId := alert.providerId
  name := if (get payload "name").truthy then get payload "name" else .text "N/A"
  status := (AlertStatus.ofValue (get payload "status")).value
  severity := (AlertSeverity.ofValue (get payload "severity")).value
  environment := environmentOf (get payload "environment")
  lastReceived :=
    match get payload "last_received" with
    | .time t => fm.strftime t
    | _ => fm.strftime now
  firingStartTime := get payload "firing_start_time"
  firingStartTimeSinceLastResolved := get payload "firing_start_time_since_last_resolved"
  firingCounter := getInt payload "firing_counter"
  unresolvedCounter := getInt payload "unresolved_counter"
  startedAt := get payload "started_at"
  assignee := get payload "assignee"
  note := get payload "note"
  dismissMode := get payload "dismiss_mode"
  dismissUntil := get payload "dismiss_until"
  dismissedUntil := get payload "dismissed_until"
  deleted := (get payload "deleted").truthy
  ticketType := get payload "ticket_type"
  ticketUrl := get payload "ticket_url"
  ticketProviderId := get payload "ticket_provider_id"

/-- The firing counter of an acknowledged alert is 0, and the unresolved counter of a resolved
one. -/
def AlertDto.correct (dto : AlertDto τ) : AlertDto τ :=
  { dto with
    firingCounter := if dto.status = AlertStatus.acknowledged.value then 0 else dto.firingCounter
    unresolvedCounter :=
      if dto.status = AlertStatus.resolved.value then 0 else dto.unresolvedCounter }

/-- What an alert is converted from. -/
def payloadOf (fm : Formats τ) (queried : QueriedAlert τ) (lastAlert : Option (LastAlert τ)) :
    Fields τ :=
  let payload : Fields τ :=
    match lastAlert with
    | some row => Dict.update queried.alert.dict (lastAlertToDtoPayload fm row)
    | none => queried.alert.dict
  match queried.startedAt with
  | some startedAt => Dict.set "started_at" (.text startedAt) payload
  | none => payload

/-- The last alert of a key: one that is attached, the last of them, or that of the table. -/
def lastAlertOf (table : List ((String × String) × LastAlert τ)) (alerts : List (QueriedAlert τ))
    (key : String × String) : Option (LastAlert τ) :=
  ((alerts.filter fun queried => queried.alert.key == key).filterMap
    QueriedAlert.lastAlert).getLast?.or (table.lookup key)

def dtoOf (fm : Formats τ) (now : τ) (queried : QueriedAlert τ)
    (lastAlert : Option (LastAlert τ)) : AlertDto τ :=
  (AlertDto.ofPayload fm now queried.alert (payloadOf fm queried lastAlert)).correct

/-- `convert_db_alerts_to_dto_alerts` -/
def convertDbAlertsToDtoAlerts (fm : Formats τ) (now : τ)
    (table : List ((String × String) × LastAlert τ)) (alerts : List (QueriedAlert τ)) :
    List (AlertDto τ) :=
  alerts.map fun queried => dtoOf fm now queried (lastAlertOf table alerts queried.alert.key)

/-!
## Fields
-/

theorem get_payloadOf {key : String} (hkey : key ≠ "started_at") (fm : Formats τ)
    (queried : QueriedAlert τ) (row : LastAlert τ) :
    get (payloadOf fm queried (some row)) key =
      (((contributions fm row).lookup key).join.or (queried.alert.dict.lookup key)).getD .none := by
  have hdistinct : Dict.Distinct (contributions fm row) := by
    simp [contributions, Dict.Distinct]
  have hpayload : Dict.Distinct (lastAlertToDtoPayload fm row) := Dict.distinct_present hdistinct
  have hupdate : (Dict.update queried.alert.dict (lastAlertToDtoPayload fm row)).lookup key =
      ((contributions fm row).lookup key).join.or (queried.alert.dict.lookup key) := by
    rw [Dict.lookup_update _ hpayload]
    unfold lastAlertToDtoPayload
    rw [Dict.lookup_present hdistinct]
  unfold get payloadOf
  cases queried.startedAt with
  | none =>
      show ((Dict.update queried.alert.dict (lastAlertToDtoPayload fm row)).lookup key).getD
        Value.none = _
      rw [hupdate]
  | some startedAt =>
      show ((Dict.set "started_at" _ _).lookup key).getD Value.none = _
      rw [Dict.lookup_set_ne (Ne.symm hkey), hupdate]

/-- The status that the DTO shows: the user's, otherwise the provider's, if it is one. -/
def shownStatus (alert : AlertRow) (row : LastAlert τ) : AlertStatus :=
  AlertStatus.ofValue (ofText (row.status.or alert.status) : Value τ)

theorem ofText_or (first second : Option String) :
    (((some (first.map (@Value.text τ))).join).or (some (ofText second))).getD .none =
      ofText (first.or second) := by
  cases first with
  | none => rfl
  | some text => rfl

theorem getD_map_text (value : Option String) :
    (((some (value.map (@Value.text τ))).join).or none).getD .none = ofText value := by
  cases value with
  | none => rfl
  | some text => rfl

theorem status_dtoOf (fm : Formats τ) (now : τ) (queried : QueriedAlert τ) (row : LastAlert τ) :
    (dtoOf fm now queried (some row)).status = (shownStatus queried.alert row).value := by
  have hget : get (payloadOf fm queried (some row)) "status" =
      ofText (row.status.or queried.alert.status) :=
    (get_payloadOf (by decide) fm queried row).trans (ofText_or row.status queried.alert.status)
  show (AlertStatus.ofValue (get (payloadOf fm queried (some row)) "status")).value = _
  rw [hget]
  rfl

/-- The columns of text that a user writes and the DTO shows as they are. -/
theorem texts_dtoOf (fm : Formats τ) (now : τ) (queried : QueriedAlert τ) (row : LastAlert τ) :
    (dtoOf fm now queried (some row)).assignee = ofText row.assignee ∧
      (dtoOf fm now queried (some row)).note = ofText row.note ∧
      (dtoOf fm now queried (some row)).dismissMode = ofText row.dismissMode ∧
      (dtoOf fm now queried (some row)).dismissedUntil =
        ofText (row.dismissedUntil.map fm.strftime) := by
  refine ⟨(get_payloadOf (by decide) fm queried row).trans (getD_map_text row.assignee),
    (get_payloadOf (by decide) fm queried row).trans (getD_map_text row.note),
    (get_payloadOf (by decide) fm queried row).trans (getD_map_text row.dismissMode),
    (get_payloadOf (by decide) fm queried row).trans ?_⟩
  show (((some (row.dismissedUntil.map fun t => Value.text (fm.strftime t))).join).or none).getD
    .none = _
  cases row.dismissedUntil with
  | none => rfl
  | some t => rfl

theorem deleted_dtoOf (fm : Formats τ) (now : τ) (queried : QueriedAlert τ) (row : LastAlert τ) :
    (dtoOf fm now queried (some row)).deleted = row.deleted := by
  have hget : get (payloadOf fm queried (some row)) "deleted" = .bool row.deleted :=
    get_payloadOf (by decide) fm queried row
  show (get (payloadOf fm queried (some row)) "deleted").truthy = _
  rw [hget]
  rfl

theorem ofValue_value (status : AlertStatus) :
    AlertStatus.ofValue (.text status.value : Value τ) = status := by
  cases status with
  | _ => rfl

/-- No column contributes the ticket. -/
theorem ticket_dtoOf (fm : Formats τ) (now : τ) (queried : QueriedAlert τ) (row : LastAlert τ) :
    (dtoOf fm now queried (some row)).ticketType = .none ∧
      (dtoOf fm now queried (some row)).ticketUrl = .none ∧
      (dtoOf fm now queried (some row)).ticketProviderId = .none :=
  ⟨get_payloadOf (by decide) fm queried row, get_payloadOf (by decide) fm queried row,
    get_payloadOf (by decide) fm queried row⟩

/-!
## A single alert
-/

theorem lastAlertOf_single {queried : QueriedAlert τ} {row : LastAlert τ}
    (h : queried.lastAlert = none ∨ queried.lastAlert = some row) :
    lastAlertOf [(queried.alert.key, row)] [queried] queried.alert.key = some row := by
  have hfilter : ([queried].filter fun other => other.alert.key == queried.alert.key) =
      [queried] := by
    apply List.filter_eq_self.mpr
    intro other hother
    rw [List.mem_singleton.mp hother]
    exact beq_self_eq_true _
  unfold lastAlertOf
  rw [hfilter, List.lookup_cons, beq_self_eq_true]
  rcases h with hnone | hsome
  · rw [List.filterMap_cons_none hnone]
    rfl
  · rw [List.filterMap_cons_some hsome]
    rfl

/-- An alert whose last alert is attached, or fetched, is converted with it. -/
theorem convert_single (fm : Formats τ) (now : τ) {queried : QueriedAlert τ} {row : LastAlert τ}
    (h : queried.lastAlert = none ∨ queried.lastAlert = some row) :
    convertDbAlertsToDtoAlerts fm now [(queried.alert.key, row)] [queried] =
      [dtoOf fm now queried (some row)] := by
  unfold convertDbAlertsToDtoAlerts
  rw [List.map_singleton, lastAlertOf_single h]

end Conversion
end Enrichments
end KeepGateway
