import KeepGateway.Deduplication.Overview
import KeepGateway.Deduplication.Provisioning

/-!
# Requests for deduplication rules

`AlertDeduplicator.create_deduplication_rule`, `update_deduplication_rule` and
`delete_deduplication_rule`, with the lookup `get_deduplication_rules`.
-/

namespace KeepGateway
namespace Deduplication
namespace RuleRequests

open Overview (keyOf shown isSet)

structure DeduplicationRuleRequestDto where
  name : String
  description : Option String
  providerType : String
  providerId : Option String
  fingerprintFields : List String
  fullDeduplication : Bool
  ignoreFields : Option (List String)
  deriving DecidableEq, Repr

inductive RequestError where
  | notFound (detail : String)
  | conflict (detail : String)
  /-- A rule without a description cannot be stored. -/
  | integrityError
  deriving DecidableEq, Repr

/-!
## The table
-/

/-- The row is appended under the next id. -/
def insertRow (db : Database) (row : AlertDeduplicationRule) : Database where
  rules := db.rules ++ [{ row with id := db.nextId }]
  nextId := db.nextId + 1
  distinct := by
    rw [List.map_append]
    refine List.nodup_append'.mpr ⟨db.distinct, List.nodup_singleton _, ?_⟩
    intro id hid hnew
    rcases List.mem_map.mp hid with ⟨row, hrow, rfl⟩
    exact absurd (List.mem_singleton.mp hnew) (Nat.ne_of_lt (db.fresh row hrow))
  fresh := by
    intro row h
    rcases List.mem_append.mp h with h | h
    · exact Nat.lt_succ_of_lt (db.fresh row h)
    · rw [List.mem_singleton.mp h]
      exact Nat.lt_succ_self _

/-- The row of the tenant with the id takes the values of another one. -/
def replaced (tenantId : String) (id : Nat)
    (change : AlertDeduplicationRule -> AlertDeduplicationRule) (row : AlertDeduplicationRule) :
    AlertDeduplicationRule :=
  if row.id = id ∧ row.tenantId = tenantId then { change row with id := row.id } else row

theorem replaced_id (tenantId : String) (id : Nat)
    (change : AlertDeduplicationRule -> AlertDeduplicationRule) (row : AlertDeduplicationRule) :
    (replaced tenantId id change row).id = row.id := by
  unfold replaced
  split
  · rfl
  · rfl

def changeRow (db : Database) (tenantId : String) (id : Nat)
    (change : AlertDeduplicationRule -> AlertDeduplicationRule) : Database where
  rules := db.rules.map (replaced tenantId id change)
  nextId := db.nextId
  distinct := by
    rw [List.map_map]
    have hid : AlertDeduplicationRule.id ∘ replaced tenantId id change =
        AlertDeduplicationRule.id := funext (replaced_id tenantId id change)
    rw [hid]
    exact db.distinct
  fresh := by
    intro row h
    rcases List.mem_map.mp h with ⟨old, hold, rfl⟩
    rw [replaced_id]
    exact db.fresh old hold

/-- No rules. -/
def noRules : Database where
  rules := []
  nextId := 0
  distinct := List.nodup_nil
  fresh := Database.noRows_fresh

section

-- `UUID(value)`, where it raises no `ValueError`
variable (toUuid : String -> Option Nat)

/-- `get_deduplication_rule_by_id` -/
def getDeduplicationRuleById (db : Database) (tenantId ruleId : String) :
    Option AlertDeduplicationRule :=
  (toUuid ruleId).bind fun id => db.rules.find? fun row =>
    row.tenantId == tenantId && row.id == id

/-!
## Requests
-/

/-- The key that a provider is looked for with, and the request as it is then stored. -/
def withProviderKey (rule : DeduplicationRuleRequestDto) :
    String × DeduplicationRuleRequestDto :=
  let key := keyOf rule.providerType rule.providerId
  if Separated.occursIn "null" key then
    (String.ofList (Replace.replaceAll "null".toList "None".toList 0 key.toList),
      { rule with providerId := none })
  else (key, rule)

/-- The values of a request, for a new row. -/
def newRow (tenantId description createdBy : String) (rule : DeduplicationRuleRequestDto) :
    AlertDeduplicationRule where
  id := 0
  tenantId := tenantId
  name := rule.name
  description := description
  providerId := rule.providerId
  providerType := rule.providerType
  lastUpdatedBy := createdBy
  createdBy := createdBy
  enabled := true
  fingerprintFields := rule.fingerprintFields
  fullDeduplication := rule.fullDeduplication
  ignoreFields := rule.ignoreFields.getD []
  priority := 0
  isProvisioned := false

/-- The values of a request, for a row that is there. -/
def overwrite (description updatedBy : String) (rule : DeduplicationRuleRequestDto)
    (row : AlertDeduplicationRule) : AlertDeduplicationRule :=
  { row with
    name := rule.name
    description := description
    providerId := rule.providerId
    providerType := rule.providerType
    lastUpdatedBy := updatedBy
    enabled := true
    fingerprintFields := rule.fingerprintFields
    fullDeduplication := rule.fullDeduplication
    ignoreFields := rule.ignoreFields.getD []
    priority := 0 }

/-- `create_deduplication_rule`, with the installed and the linked providers -/
def createDeduplicationRule (tenantId : String) (providers : List Overview.Provider)
    (request : DeduplicationRuleRequestDto) (createdBy : String) (db : Database) :
    Except RequestError Database :=
  let keyed := withProviderKey request
  let rule := keyed.2
  if providers.any fun provider => keyed.1 == keyOf provider.type provider.id then
    match rule.description with
    | some description => .ok (insertRow db (newRow tenantId description createdBy rule))
    | none => .error .integrityError
  else
    .error (.notFound ("Provider " ++ rule.providerType ++ " not found" ++
      if isSet rule.providerId then " with id " ++ shown rule.providerId else ""))

/-- `update_deduplication_rule` -/
def updateDeduplicationRule (env : Overview.Environment) (tenantId : String)
    (providers : List Overview.Provider) (ruleId : String) (rule : DeduplicationRuleRequestDto)
    (updatedBy : String) (db : Database) : Except RequestError Database :=
  if ruleId = env.generateUuid rule.providerId (some rule.providerType) then
    createDeduplicationRule tenantId providers rule updatedBy db
  else
    match getDeduplicationRuleById toUuid db tenantId ruleId with
    | none => .error (.notFound "Deduplication rule not found")
    | some row =>
        if row.isProvisioned then
          .error (.conflict "Provisioned deduplication rule cannot be updated")
        else
          match rule.description with
          | some description =>
              .ok (changeRow db tenantId row.id (overwrite description updatedBy rule))
          | none => .error .integrityError

/-- `delete_deduplication_rule` -/
def deleteDeduplicationRule (tenantId ruleId : String) (db : Database) :
    Except RequestError Database :=
  match getDeduplicationRuleById toUuid db tenantId ruleId with
  | none => .error (.notFound "Deduplication rule not found")
  | some row =>
      if row.isProvisioned then
        .error (.conflict "Provisioned deduplication rule cannot be deleted")
      else .ok (db.deleteDeduplicationRule tenantId row.id)

inductive Action where
  | create (rule : DeduplicationRuleRequestDto) (createdBy : String)
  | update (ruleId : String) (rule : DeduplicationRuleRequestDto) (updatedBy : String)
  | delete (ruleId : String)
  deriving DecidableEq, Repr

/-- A call of a tenant, with the providers that are installed and linked at that time. -/
structure Call where
  tenantId : String
  providers : List Overview.Provider
  action : Action

def Call.perform (env : Overview.Environment) (call : Call) (db : Database) :
    Except RequestError Database :=
  match call.action with
  | .create rule createdBy =>
      createDeduplicationRule call.tenantId call.providers rule createdBy db
  | .update ruleId rule updatedBy =>
      updateDeduplicationRule toUuid env call.tenantId call.providers ruleId rule updatedBy db
  | .delete ruleId => deleteDeduplicationRule toUuid call.tenantId ruleId db

/-- The table after a call: one that raises leaves it as it is. -/
def Call.run (env : Overview.Environment) (db : Database) (call : Call) : Database :=
  match call.perform toUuid env db with
  | .ok db' => db'
  | .error _ => db

/-- The table after some calls, from one without rules. -/
def after (env : Overview.Environment) (calls : List Call) : Database :=
  calls.foldl (Call.run toUuid env) noRules

end

/-!
## The lookup
-/

inductive LookupError where
  | multipleResultsFound
  deriving DecidableEq, Repr

/-- `one_or_none()` of the rows of a query. -/
def oneOrNone {α : Type} : List α -> Except LookupError (Option α)
  | [] => .ok none
  | [row] => .ok (some row)
  | _ => .error .multipleResultsFound

/-- `get_custom_deduplication_rule` -/
def getCustomDeduplicationRule (db : Database) (tenantId : String) (providerId : Option String)
    (providerType : String) : Except LookupError (Option AlertDeduplicationRule) :=
  oneOrNone (db.rules.filter fun row => row.tenantId == tenantId &&
    row.providerId == providerId && row.providerType == providerType)

inductive TakenRule where
  | custom (row : AlertDeduplicationRule)
  | default (rule : Overview.DeduplicationRuleDto)

/-- The rule of the database, where custom rules are in use. -/
def customRule (env : Overview.Environment) (db : Database) (tenantId : String)
    (providerId : Option String) (providerType : String) :
    Except LookupError (Option AlertDeduplicationRule) :=
  if env.customDeduplicationEnabled then
    getCustomDeduplicationRule db tenantId providerId providerType
  else .ok none

/-- A rule of the database that is not a full one ignores what the default rule ignores. -/
def takenRules (defaultRule : Overview.DeduplicationRuleDto) :
    Option AlertDeduplicationRule -> List TakenRule
  | none => [.default defaultRule]
  | some row =>
      if row.fullDeduplication then [.custom row]
      else [.custom { row with ignoreFields := defaultRule.ignoreFields }]

/-- `get_deduplication_rules` -/
def getDeduplicationRules (env : Overview.Environment) (db : Database) (tenantId : String)
    (providerId providerType : Option String) : Except LookupError (List TakenRule) :=
  let providerType := providerTypeOrKeep providerType
  (customRule env db tenantId providerId providerType).map
    (takenRules (env.getDefaultFullDeduplicationRule providerId (some providerType)))

end RuleRequests
end Deduplication
end KeepGateway
