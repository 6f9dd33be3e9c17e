import KeepGateway.Enrichments.IncidentEnrichment
import KeepGateway.Lib.Transactions

/-!
# Enriching many entities

The batch calls of `db.py`, which enrich a list of entities in one transaction, and
the single call of `enrich_entity`, which is a transaction of its own.
-/

namespace KeepGateway
namespace Enrichments

open Transactions

variable {τ : Type}

/-- The tables of one tenant that an enrichment reads and writes. -/
structure Tables (τ : Type) where
  lastAlerts : List (String × LastAlert τ)
  incidents : IncidentTables

/-- The entity type of a call, with its dictionary and its strict flag. -/
inductive Request (τ : Type) where
  | alert (enrichments : EnrichmentDict τ) (strict : Bool)
  | incident (enrichments : IncidentDict)

inductive EnrichFailure where
  | enrichment (failure : Failure)
  | badlyFormedUuid (fingerprint : String)
  | integrityError (incidentId : Nat)

/-- What a call takes from its surroundings: the database's storage, the text of a UUID in
both directions, the tenant, and what it writes to the audit rows. -/
structure Context (τ : Type) where
  storage : Storage τ
  uuid : String -> Option Nat
  str : Nat -> String
  tenantId : String
  action : Action

namespace Context

def audit (ctx : Context τ) (fingerprint : String) : Audit :=
  ctx.action.audit ctx.tenantId fingerprint

/-- `UUID(str(fingerprint))` -/
def incidentId (ctx : Context τ) (fingerprint : String) : Except EnrichFailure Nat :=
  match ctx.uuid fingerprint with
  | some id => .ok id
  | none => .error (.badlyFormedUuid fingerprint)

def normalize (e : EnrichmentDict τ) (strict : Bool) : Except EnrichFailure (Fields τ) :=
  (normalizeEnrichments e.fields strict).mapError .enrichment

/-- The rows after the columns of one are written; without a row nothing is. -/
def writeLastAlert (ctx : Context τ) (normalized : Fields τ)
    (rows : List (String × LastAlert τ)) (fingerprint : String) :
    Except EnrichFailure (List (String × LastAlert τ)) :=
  match rows.lookup fingerprint with
  | none => .ok rows
  | some row => do
      let row <- (applyEnrichmentsToLastAlert ctx.storage false row normalized).mapError
        .enrichment
      .ok (Dict.set fingerprint row rows)

def addAudit (ctx : Context τ) (db : Tables τ) (fingerprint : String) : Tables τ :=
  { db with incidents := db.incidents.addAudits [ctx.audit fingerprint] }

/-- `_enrich_entity`, not forced. -/
def enrichEntity (ctx : Context τ) (request : Request τ) (db : Tables τ)
    (fingerprint : String) : Except EnrichFailure (Tables τ) :=
  match request with
  | .incident e => do
      let id <- ctx.incidentId fingerprint
      .ok { db with
        incidents := enrichIncident ctx.str db.incidents ctx.tenantId id e.fields false
          ctx.action }
  | .alert e strict => do
      let normalized <- normalize e strict
      let rows <- ctx.writeLastAlert normalized db.lastAlerts fingerprint
      .ok (ctx.addAudit { db with lastAlerts := rows } fingerprint)

/-!
## The batch
-/

/-- `to_update`: the merged documents of the rows that the batch has read, by row. -/
def toUpdate (ctx : Context τ) (e : IncidentDict) (db : IncidentTables) (ids : List Nat) :
    List (Nat × Document) :=
  ids.foldl
    (fun updates id =>
      match db.find ctx.tenantId id with
      | some row => Dict.set id (mergeEnrichments row.enrichments e.fields) updates
      | none => updates)
    []

/-- `to_create`: one row for every occurrence of an id that was read without a row. -/
def toCreate (ctx : Context τ) (db : IncidentTables) (ids : List Nat) : List Nat :=
  ids.filter fun id => (db.find ctx.tenantId id).isNone

def insertRow (ctx : Context τ) (e : IncidentDict) (db : IncidentTables) (id : Nat) :
    Except EnrichFailure IncidentTables :=
  if h : db.Insertable id then .ok (db.insert ⟨ctx.tenantId, id, e.fields⟩ h)
  else .error (.integrityError id)

/-- `_batch_enrich_incident` -/
def batchEnrichIncident (ctx : Context τ) (e : IncidentDict) (db : IncidentTables)
    (fingerprints : List String) : Except EnrichFailure IncidentTables := do
  let ids <- fingerprints.mapM ctx.incidentId
  let updated := (ctx.toUpdate e db ids).foldl (fun db update => db.write update.1 update.2) db
  let created <- (ctx.toCreate db ids).foldlM (ctx.insertRow e) updated
  .ok (created.addAudits (ids.map fun id => ctx.audit (ctx.str id)))

/-- `batch_enrich` -/
def batchEnrich (ctx : Context τ) (request : Request τ) (db : Tables τ)
    (fingerprints : List String) : Except EnrichFailure (Tables τ) :=
  match request with
  | .incident e => do
      let incidents <- ctx.batchEnrichIncident e db.incidents fingerprints
      .ok { db with incidents := incidents }
  | .alert e strict => do
      let normalized <- normalize e strict
      let rows <- fingerprints.foldlM (ctx.writeLastAlert normalized) db.lastAlerts
      .ok {
        lastAlerts := rows
        incidents := db.incidents.addAudits (fingerprints.map ctx.audit) }

end Context

end Enrichments
end KeepGateway
