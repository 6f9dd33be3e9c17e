import KeepGateway.Enrichments.StoredAttributes

/-!
# Documents of alerts

The document that Elasticsearch keeps of an alert, with the fields that a user can enrich; and
what the row of the alert gives in its place.
-/

namespace KeepGateway
namespace Enrichments

variable {τ : Type}

/-!
## Alerts
-/

inductive AlertStatus where
  | firing
  | resolved
  | acknowledged
  | suppressed
  | pending
  | maintenance
  deriving DecidableEq, Repr

namespace AlertStatus

def value : AlertStatus -> String
  | firing => "firing"
  | resolved => "resolved"
  | acknowledged => "acknowledged"
  | suppressed => "suppressed"
  | pending => "pending"
  | maintenance => "maintenance"

/-- `AlertStatus(status)`; an unknown status becomes FIRING. -/
def ofValue : Value τ -> AlertStatus
  | .text s =>
      ([firing, resolved, acknowledged, suppressed, pending, maintenance].find? fun status =>
        status.value == s).getD firing
  | _ => firing

end AlertStatus

/-- Timestamps as text, by `isoformat` and by the `strftime` of `last_alert_enrichments_dict`;
and what a field of type `str | None` takes of a value. -/
structure Formats (τ : Type) where
  isoformat : τ -> String
  strftime : τ -> String
  str : Value τ -> Option (Value τ)
  str_none : str .none = some .none
  str_text : forall s, str (.text s) = some (.text s)

/-- The enriched fields of an `AlertDto`, and of its document.  Assigning to a field does not
validate it. -/
structure AlertDto (τ : Type) where
  status : Value τ
  assignee : Value τ
  note : Value τ
  dismissMode : Value τ
  dismissUntil : Value τ
  dismissedUntil : Value τ
  deleted : Bool
  deriving DecidableEq, Repr

/-- The alert as the provider sent it, whose fields are valid. -/
structure ProviderAlert where
  status : AlertStatus
  assignee : Option String
  note : Option String
  dismissMode : Option String
  dismissUntil : Option String
  dismissedUntil : Option String
  deleted : Bool
  deriving DecidableEq, Repr

def ofText (value : Option String) : Value τ := value.elim .none .text

def ProviderAlert.dto (alert : ProviderAlert) : AlertDto τ where
  status := .text alert.status.value
  assignee := ofText alert.assignee
  note := ofText alert.note
  dismissMode := ofText alert.dismissMode
  dismissUntil := ofText alert.dismissUntil
  dismissedUntil := ofText alert.dismissedUntil
  deleted := alert.deleted

/-!
## Enriching
-/

/-- `enrichments.get(key)` where it is not None. -/
def given (e : Fields τ) (key : String) : Option (Value τ) :=
  match e.lookup key with
  | some .none => none
  | value => value

/-- A value whose timestamps are text. -/
def Value.timeText (format : τ -> String) : Value τ -> Value τ
  | time t => text (format t)
  | value => value

/-- `_apply_enrichments_to_dto` -/
def applyEnrichmentsToDto (fm : Formats τ) (dto : AlertDto τ) (e : Fields τ) : AlertDto τ where
  status := (given e "status").getD dto.status
  assignee := (given e "assignee").getD dto.assignee
  note := (given e "note").getD dto.note
  dismissMode := (given e "dismiss_mode").getD dto.dismissMode
  dismissUntil :=
    ((given e "dismissed_until").map (Value.timeText fm.isoformat)).getD dto.dismissUntil
  dismissedUntil :=
    ((given e "dismissed_until").map (Value.timeText fm.isoformat)).getD dto.dismissedUntil
  deleted := ((e.lookup "deleted").getD (.bool false)).truthy

/-- `AlertDto(**source)` -/
def AlertDto.parse (fm : Formats τ) (source : AlertDto τ) : Option (AlertDto τ) := do
  let assignee <- fm.str source.assignee
  let note <- fm.str source.note
  let dismissMode <- fm.str source.dismissMode
  let dismissUntil <- fm.str source.dismissUntil
  let dismissedUntil <- fm.str source.dismissedUntil
  return {
    status := .text (AlertStatus.ofValue source.status).value
    assignee := assignee
    note := note
    dismissMode := dismissMode
    dismissUntil := dismissUntil
    dismissedUntil := dismissedUntil
    deleted := source.deleted }

/-- `index_alert`: the client writes timestamps with `isoformat`. -/
def indexAlert (fm : Formats τ) (alert : AlertDto τ) : AlertDto τ where
  status := alert.status.timeText fm.isoformat
  assignee := alert.assignee.timeText fm.isoformat
  note := alert.note.timeText fm.isoformat
  dismissMode := alert.dismissMode.timeText fm.isoformat
  dismissUntil := alert.dismissUntil.timeText fm.isoformat
  dismissedUntil := alert.dismissedUntil.timeText fm.isoformat
  deleted := alert.deleted

/-- `enrich_alert`; without a result, the document is not valid. -/
def enrichAlert (fm : Formats τ) (document : AlertDto τ) (e : Fields τ) : Option (AlertDto τ) :=
  (document.parse fm).map fun alert => indexAlert fm (applyEnrichmentsToDto fm alert e)

/-- `last_alert_enrichments_dict` -/
def lastAlertEnrichmentsDict (fm : Formats τ) (row : LastAlert τ) : Fields τ :=
  Dict.present
    [("status", row.status.map .text), ("assignee", row.assignee.map .text),
      ("note", row.note.map .text), ("dismiss_mode", row.dismissMode.map .text),
      ("ticket_type", row.ticketType.map .text), ("ticket_url", row.ticketUrl.map .text),
      ("ticket_provider_id", row.ticketProviderId.map .text),
      ("dismissed_until", row.dismissedUntil.map fun t => .text (fm.strftime t)),
      ("deleted", if row.deleted then some (.bool true) else none)]

/-- What the row gives of its alert. -/
def shownBy (fm : Formats τ) (provider : ProviderAlert) (row : LastAlert τ) : AlertDto τ :=
  applyEnrichmentsToDto fm provider.dto (lastAlertEnrichmentsDict fm row)

/-!
## Fields
-/

/-- The fields of text that are compared. -/
inductive Shown where
  | status
  | assignee
  | note
  | dismissMode
  | dismissedUntil
  deriving DecidableEq, Repr

def Shown.key : Shown -> String
  | status => "status"
  | assignee => "assignee"
  | note => "note"
  | dismissMode => "dismiss_mode"
  | dismissedUntil => "dismissed_until"

def AlertDto.get (dto : AlertDto τ) : Shown -> Value τ
  | .status => dto.status
  | .assignee => dto.assignee
  | .note => dto.note
  | .dismissMode => dto.dismissMode
  | .dismissedUntil => dto.dismissedUntil

def LastAlert.attribute (row : LastAlert τ) (key : String) : Value τ :=
  (row.attributes.lookup key).getD .none

/-- The provider's value where there is none. -/
def Value.orElse : Value τ -> Value τ -> Value τ
  | none, value => value
  | value, _ => value

/-- What a field shows after it is read again. -/
def reread (f : Shown) (value : Value τ) : Value τ :=
  if f = .status then .text (AlertStatus.ofValue value).value else value

section Laws

variable {fm : Formats τ}

theorem timeText_timeText (format : τ -> String) (value : Value τ) :
    (value.timeText format).timeText format = value.timeText format := by
  cases value with
  | _ => rfl

/-- What is indexed of an enriched alert. -/
theorem get_indexAlert (alert : AlertDto τ) (e : Fields τ) (f : Shown) :
    (indexAlert fm (applyEnrichmentsToDto fm alert e)).get f =
      ((given e f.key).getD (alert.get f)).timeText fm.isoformat := by
  cases f with
  | dismissedUntil =>
      show (((given e "dismissed_until").map (Value.timeText fm.isoformat)).getD
        alert.dismissedUntil).timeText fm.isoformat = _
      show _ = ((given e "dismissed_until").getD alert.dismissedUntil).timeText fm.isoformat
      cases given e "dismissed_until" with
      | none => rfl
      | some value => exact timeText_timeText fm.isoformat value
  | _ => rfl

theorem lookup_lastAlertEnrichmentsDict (row : LastAlert τ) (f : Shown) :
    given (lastAlertEnrichmentsDict fm row) f.key =
      match (row.attribute f.key).timeText fm.strftime with
      | .none => none
      | value => some value := by
  unfold given lastAlertEnrichmentsDict
  rw [Dict.lookup_present (by simp [Dict.Distinct])]
  have htext : forall value : Option String,
      (match (some (value.map (Value.text (τ := τ)))).join with
        | some .none => none
        | v => v) =
      match (value.elim Value.none Value.text).timeText fm.strftime with
      | .none => none
      | v => some v := by
    intro value
    cases value with
    | _ => rfl
  cases f with
  | status => exact htext row.status
  | assignee => exact htext row.assignee
  | note => exact htext row.note
  | dismissMode => exact htext row.dismissMode
  | dismissedUntil =>
      show (match (some (row.dismissedUntil.map fun t => Value.text (fm.strftime t))).join with
        | some .none => none
        | v => v) =
        match (row.dismissedUntil.elim Value.none Value.time).timeText fm.strftime with
        | .none => none
        | v => some v
      cases row.dismissedUntil with
      | _ => rfl

/-- The row's value of a field, and otherwise the provider's. -/
theorem get_shownBy (provider : ProviderAlert) (row : LastAlert τ) (f : Shown) :
    (shownBy fm provider row).get f =
      ((row.attribute f.key).timeText fm.strftime).orElse (provider.dto.get f) := by
  have hget : (shownBy fm provider row).get f =
      (given (lastAlertEnrichmentsDict fm row) f.key).getD (provider.dto.get f) := by
    cases f with
    | dismissedUntil =>
        have hgiven := @lookup_lastAlertEnrichmentsDict _ fm row .dismissedUntil
        show ((given (lastAlertEnrichmentsDict fm row) "dismissed_until").map
          (Value.timeText fm.isoformat)).getD _ = _
        have hkey : Shown.dismissedUntil.key = "dismissed_until" := rfl
        rw [hkey] at hgiven ⊢
        rw [hgiven]
        cases (row.attribute "dismissed_until") with
        | _ => rfl
    | _ => rfl
  rw [hget, lookup_lastAlertEnrichmentsDict]
  cases (row.attribute f.key).timeText fm.strftime with
  | _ => rfl

end Laws

end Enrichments
end KeepGateway
