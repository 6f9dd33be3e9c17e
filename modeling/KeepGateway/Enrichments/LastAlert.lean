import KeepGateway.Lib.Dict
import KeepGateway.Lib.Except

/-!
# Enrichments of the last alert

The `lastalert` row of a fingerprint: what a user enrichment writes to its typed
columns, and what a newer occurrence of the alert does to them.  `τ` is the type
of the database's timestamps.
-/

namespace KeepGateway
namespace Enrichments

variable {τ : Type}

/-- A value of an enrichment; the last case is a float, a list or a dictionary. -/
inductive Value (τ : Type) where
  | none
  | bool (b : Bool)
  | number (n : Int)
  | text (s : String)
  | time (t : τ)
  | other (truthy : Bool)
  deriving DecidableEq, Repr

def Value.truthy : Value τ -> Bool
  | none => false
  | bool b => b
  | number n => n != 0
  | text s => s != ""
  | time _ => true
  | other truthy => truthy

/-- `str.isspace` -/
def isSpace (c : Char) : Bool :=
  let n := c.toNat
  9 <= n && n <= 13 || 28 <= n && n <= 32 || n == 133 || n == 160 || n == 5760 ||
    8192 <= n && n <= 8202 || n == 8232 || n == 8233 || n == 8239 || n == 8287 || n == 12288

/-- `value is None or (isinstance(value, str) and not value.strip())` -/
def Value.isBlank : Value τ -> Bool
  | none => true
  | text s => s.toList.all isSpace
  | _ => false

/-- How the columns store values other than None, where the database takes them.  A
Boolean column takes what is equal to True or False. -/
structure Storage (τ : Type) where
  text : Value τ -> Option String
  time : Value τ -> Option τ
  flag : Value τ -> Option Bool
  flag_truthy : forall v b, flag v = some b -> b = v.truthy

/-- The columns of a row that carry information about its alert. -/
structure LastAlert (τ : Type) where
  timestamp : Nat
  firstTimestamp : Nat
  alertId : Nat
  alertHash : Option String
  status : Option String
  statusDisposable : Bool
  dismissMode : Option String
  dismissedUntil : Option τ
  assignee : Option String
  note : Option String
  deleted : Bool
  ticketType : Option String
  ticketUrl : Option String
  ticketProviderId : Option String
  tracking : List (String × Value τ)
  deriving DecidableEq, Repr

abbrev Fields (τ : Type) := List (String × Value τ)

/-- The dictionary of a request. -/
structure EnrichmentDict (τ : Type) where
  fields : Fields τ
  distinct : Dict.Distinct fields

/-- `LASTALERT_ENRICHMENT_COLUMNS` -/
def enrichmentColumns : List String :=
  ["status", "status_disposable", "dismiss_mode", "dismissed_until", "assignee", "note",
    "deleted", "ticket_type", "ticket_url", "ticket_provider_id"]

/-- `LASTALERT_TRACKING_COLUMNS` -/
def trackingColumns : List String :=
  ["last_received", "firing_counter", "unresolved_counter", "started_at", "firing_start_time",
    "firing_start_time_since_last_resolved"]

/-- The `ValueError` of unknown keys, which names them in order. -/
inductive Failure where
  | unknownEnrichmentKeys (unknown : List String)
  | notStored (key : String)
  deriving DecidableEq, Repr

/-!
## Normalizing
-/

/-- The timestamp that accompanies `dismissed`, which leaves the dictionary when it is
taken from the legacy key. -/
def dismissTimestamp (e : Fields τ) : Value τ × Fields τ :=
  match (e.lookup "dismissed_until").getD .none with
  | .none => ((e.lookup "dismiss_until").getD .none, Dict.erase "dismiss_until" e)
  | ts => (ts, e)

/-- The legacy keys in terms of the typed columns. -/
def translate (e : Fields τ) : Fields τ :=
  match e.lookup "dismissed" with
  | some dismissed =>
      let (ts, e) := dismissTimestamp (Dict.erase "dismissed" e)
      if dismissed.truthy then
        let e := Dict.setDefault "status" (.text "suppressed") e
        if ts.truthy then
          Dict.set "dismissed_until" ts (Dict.set "dismiss_mode" (.text "dismiss_until") e)
        else Dict.setDefault "dismiss_mode" (.text "permanent") e
      else
        Dict.set "dismissed_until" .none
          (Dict.set "dismiss_mode" .none (Dict.setDefault "status" .none e))
  | none =>
      match e.lookup "dismiss_until" with
      | some ts =>
          let e := Dict.erase "dismiss_until" e
          if ts.truthy then
            Dict.set "dismissed_until" ts
              (Dict.set "dismiss_mode" (.text "dismiss_until")
                (Dict.setDefault "status" (.text "suppressed") e))
          else e
      | none =>
          match e.lookup "dismiss_mode" with
          | some mode =>
              if mode.truthy then Dict.setDefault "status" (.text "suppressed") e
              else Dict.setDefault "dismissed_until" .none (Dict.setDefault "status" .none e)
          | none => e

def isEnrichable (key : String) : Bool :=
  decide (key ∈ enrichmentColumns)

/-- Unknown keys are an error where `strict`, and discarded otherwise. -/
def normalizeEnrichments (e : Fields τ) (strict : Bool) : Except Failure (Fields τ) :=
  let normalized := translate e
  let unknown := (normalized.map Prod.fst).filter fun key => !isEnrichable key
  if strict = true ∧ unknown ≠ [] then
    .error (.unknownEnrichmentKeys (unknown.mergeSort fun a b => decide (a <= b)))
  else .ok (normalized.filter fun entry => isEnrichable entry.1)

/-!
## Writing
-/

namespace Storage

def nullableText (st : Storage τ) : Value τ -> Option (Option String)
  | .none => some none
  | value => (st.text value).map some

def nullableTime (st : Storage τ) : Value τ -> Option (Option τ)
  | .none => some none
  | value => (st.time value).map some

/-- The Boolean columns are NOT NULL. -/
def notNullFlag (st : Storage τ) : Value τ -> Option Bool
  | .none => none
  | value => st.flag value

end Storage

/-- `setattr(last_alert, key, value)`, as the row is stored. -/
def LastAlert.set (st : Storage τ) (row : LastAlert τ) (key : String) (value : Value τ) :
    Option (LastAlert τ) :=
  if key = "status" then (st.nullableText value).map fun v => { row with status := v }
  else if key = "status_disposable" then
    (st.notNullFlag value).map fun v => { row with statusDisposable := v }
  else if key = "dismiss_mode" then
    (st.nullableText value).map fun v => { row with dismissMode := v }
  else if key = "dismissed_until" then
    (st.nullableTime value).map fun v => { row with dismissedUntil := v }
  else if key = "assignee" then (st.nullableText value).map fun v => { row with assignee := v }
  else if key = "note" then (st.nullableText value).map fun v => { row with note := v }
  else if key = "deleted" then (st.notNullFlag value).map fun v => { row with deleted := v }
  else if key = "ticket_type" then
    (st.nullableText value).map fun v => { row with ticketType := v }
  else if key = "ticket_url" then
    (st.nullableText value).map fun v => { row with ticketUrl := v }
  else if key = "ticket_provider_id" then
    (st.nullableText value).map fun v => { row with ticketProviderId := v }
  else none

/-- A blank note only overwrites one when forced. -/
def applyEnrichmentsToLastAlert (st : Storage τ) (force : Bool) :
    LastAlert τ -> Fields τ -> Except Failure (LastAlert τ)
  | row, [] => .ok row
  | row, (key, value) :: rest =>
      if key = "note" ∧ force = false ∧ value.isBlank = true then
        applyEnrichmentsToLastAlert st force row rest
      else
        match row.set st key value with
        | some row => applyEnrichmentsToLastAlert st force row rest
        | none => .error (.notStored key)

/-- `enrich_entity` of `db.py`; without a row nothing is written. -/
def enrichRow (st : Storage τ) (row : Option (LastAlert τ)) (e : Fields τ)
    (force strict : Bool) : Except Failure (Option (LastAlert τ)) := do
  let normalized <- normalizeEnrichments e strict
  match row with
  | none => return none
  | some row => do
      let row <- applyEnrichmentsToLastAlert st force row normalized
      return some row

/-- `_apply_dispose_on_new_alert` -/
def applyDisposeOnNewAlert (e : Fields τ) (disposeOnNewAlert : Bool) : Fields τ :=
  if (e.lookup "status").isSome || (e.lookup "dismiss_mode").isSome then
    Dict.set "status_disposable" (.bool disposeOnNewAlert) e
  else e

/-- The enrichments that `EnrichmentsBl.enrich_entity` hands to the database. -/
def normalizedForm (e : Fields τ) (disposeOnNewAlert strict : Bool) :
    Except Failure (Fields τ) :=
  normalizeEnrichments (applyDisposeOnNewAlert e disposeOnNewAlert) strict

/-- `EnrichmentsBl.enrich_entity` on an alert. -/
def enrichEntity (st : Storage τ) (row : Option (LastAlert τ)) (e : Fields τ)
    (disposeOnNewAlert force strict : Bool) : Except Failure (Option (LastAlert τ)) := do
  let normalized <- normalizedForm e disposeOnNewAlert strict
  enrichRow st row normalized force strict

/-!
## Occurrences
-/

/-- The columns of `alert` that `set_last_alert` reads. -/
structure Alert where
  id : Nat
  timestamp : Nat
  hash : Option String
  status : Option String
  deriving DecidableEq, Repr

def applyDismissLifecycle (row : LastAlert τ) (alertStatus : Option String) : LastAlert τ :=
  let shouldClear := if alertStatus = some "resolved" then true else row.statusDisposable
  if shouldClear then
    { row with
      status := alertStatus
      statusDisposable := true
      dismissMode := none
      dismissedUntil := none }
  else row

/-- Keys that are no tracking columns are ignored. -/
def writeTracking (row : LastAlert τ) (tracking : Fields τ) : LastAlert τ :=
  tracking.foldl
    (fun row entry =>
      if entry.1 ∈ trackingColumns then
        { row with tracking := Dict.set entry.1 entry.2 row.tracking }
      else row)
    row

def newLastAlert (alert : Alert) : LastAlert τ where
  timestamp := alert.timestamp
  firstTimestamp := alert.timestamp
  alertId := alert.id
  alertHash := alert.hash
  status := none
  statusDisposable := false
  dismissMode := none
  dismissedUntil := none
  assignee := none
  note := none
  deleted := false
  ticketType := none
  ticketUrl := none
  ticketProviderId := none
  tracking := []

/-- An occurrence that is not newer leaves the row alone. -/
def setLastAlert (row : Option (LastAlert τ)) (alert : Alert)
    (tracking : Fields τ) : LastAlert τ :=
  match row with
  | none => writeTracking (newLastAlert alert) tracking
  | some row =>
      if row.timestamp < alert.timestamp then
        applyDismissLifecycle
          (writeTracking
            { row with
              timestamp := alert.timestamp
              alertId := alert.id
              alertHash := alert.hash }
            tracking)
          alert.status
      else row

end Enrichments
end KeepGateway
