import KeepGateway.Lib.Except
import KeepGateway.Lib.Latest

/-!
# Provisioning of deduplication rules

`provision_deduplication_rules_from_env` on a parsed `KEEP_PROVIDERS` mapping and the table
of deduplication rules.
-/

namespace KeepGateway
namespace Deduplication

/-- The value of a rule in `KEEP_PROVIDERS`; `ignore_fields` is absent or null alike. -/
structure RuleConfig where
  description : Option String
  fingerprintFields : Option (List String)
  fullDeduplication : Option Bool
  ignoreFields : Option (List String)
  deriving DecidableEq, Repr

structure ProviderConfig where
  type : String
  deduplicationRules : List (String × RuleConfig)

/-- The parsed mapping: an object of objects. -/
structure Mapping where
  providers : List (String × ProviderConfig)
  distinct : Dict.Distinct providers
  distinctRules : forall p, p ∈ providers -> Dict.Distinct p.2.deduplicationRules

/-- A rule of the mapping, with the `name`, the `provider_name` and the `provider_type` that
are put into it. -/
structure Entry where
  name : String
  providerName : String
  providerType : String
  config : RuleConfig
  deriving DecidableEq, Repr

def ProviderConfig.entries (providerName : String) (config : ProviderConfig) : List Entry :=
  config.deduplicationRules.map fun rule => ⟨rule.1, providerName, config.type, rule.2⟩

/-- The entries in the order of the nested loop. -/
def Mapping.entries (mapping : Mapping) : List Entry :=
  mapping.providers.flatMap fun provider => provider.2.entries provider.1

/-- The dictionary is keyed by the name of the rule alone. -/
def getDeduplicationRulesToProvision (mapping : Mapping) : Option (List (String × Entry)) :=
  let rules := Latest.index Entry.name mapping.entries
  if rules = [] then none else some rules

structure InstalledProvider where
  id : String
  type : String
  name : String
  deriving DecidableEq, Repr

/-- A rule with its `provider_id` and `provider_type`. -/
structure EnrichedRule where
  config : RuleConfig
  providerId : String
  providerType : String
  deriving DecidableEq, Repr

inductive PyException where
  /-- `provider.id` of a provider that is not installed -/
  | attributeError
  | valueError (ruleId : Nat)
  deriving DecidableEq, Repr

/-- `installed_providers_dict.get(provider_name)` -/
def installedProvider (installed : List InstalledProvider) (name : String) :
    Option InstalledProvider :=
  (Latest.index InstalledProvider.name installed).lookup name

def enrichRule (installed : List InstalledProvider) (rule : Entry) :
    Except PyException EnrichedRule :=
  match installedProvider installed rule.providerName with
  | none => .error .attributeError
  | some provider => .ok ⟨rule.config, provider.id, provider.type⟩

def enrichWithProvidersInfo (installed : List InstalledProvider) :
    List (String × Entry) -> Except PyException (List (String × EnrichedRule))
  | [] => .ok []
  | (name, rule) :: rest => do
      let enriched <- enrichRule installed rule
      let others <- enrichWithProvidersInfo installed rest
      .ok ((name, enriched) :: others)

/-!
## The table
-/

structure AlertDeduplicationRule where
  id : Nat
  tenantId : String
  name : String
  description : String
  providerId : Option String
  providerType : String
  lastUpdatedBy : String
  createdBy : String
  enabled : Bool
  fingerprintFields : List String
  fullDeduplication : Bool
  ignoreFields : List String
  priority : Int
  isProvisioned : Bool
  deriving DecidableEq, Repr

namespace AlertDeduplicationRule

/-- What `update_deduplication_rule` is called with. -/
def provision (rule : EnrichedRule) (name : String) (row : AlertDeduplicationRule) :
    AlertDeduplicationRule :=
  { row with
    name := name
    description := rule.config.description.getD ""
    providerId := some rule.providerId
    providerType := rule.providerType
    lastUpdatedBy := "system"
    enabled := true
    fingerprintFields := rule.config.fingerprintFields.getD []
    fullDeduplication := rule.config.fullDeduplication.getD false
    ignoreFields := rule.config.ignoreFields.getD []
    priority := 0 }

/-- What `create_deduplication_rule` is called with. -/
def create (id : Nat) (tenantId name : String) (rule : EnrichedRule) :
    AlertDeduplicationRule where
  id := id
  tenantId := tenantId
  name := name
  description := rule.config.description.getD ""
  providerId := some rule.providerId
  providerType := rule.providerType
  lastUpdatedBy := "system"
  createdBy := "system"
  enabled := true
  fingerprintFields := rule.config.fingerprintFields.getD []
  fullDeduplication := rule.config.fullDeduplication.getD false
  ignoreFields := rule.config.ignoreFields.getD []
  priority := 0
  isProvisioned := true

/-- A provisioned rule of the tenant. -/
def isProvisionedOf (tenantId : String) (row : AlertDeduplicationRule) : Bool :=
  row.tenantId == tenantId && row.isProvisioned

end AlertDeduplicationRule

open AlertDeduplicationRule

/-- The rows in the order in which they are selected; `nextId` is the next fresh id. -/
structure Database where
  rules : List AlertDeduplicationRule
  nextId : Nat
  distinct : (rules.map AlertDeduplicationRule.id).Nodup
  fresh : forall row, row ∈ rules -> row.id < nextId

namespace Database

/-- A table without rows has used no id. -/
theorem noRows_fresh (row : AlertDeduplicationRule) (h : row ∈ []) : row.id < 0 :=
  absurd h List.not_mem_nil

@[ext] theorem ext {a b : Database} (hrules : a.rules = b.rules) (hnext : a.nextId = b.nextId) :
    a = b := by
  cases a
  cases b
  cases hrules
  cases hnext
  rfl

/-- `get_all_deduplication_rules` -/
def getAllDeduplicationRules (db : Database) (tenantId : String) : List AlertDeduplicationRule :=
  db.rules.filter fun row => row.tenantId == tenantId

/-- The provisioned rules of the tenant. -/
def provisioned (db : Database) (tenantId : String) : List AlertDeduplicationRule :=
  (db.getAllDeduplicationRules tenantId).filter AlertDeduplicationRule.isProvisioned

def deleteDeduplicationRule (db : Database) (tenantId : String) (ruleId : Nat) : Database where
  rules := db.rules.filter fun row => !(row.id == ruleId && row.tenantId == tenantId)
  nextId := db.nextId
  distinct := db.distinct.sublist (List.filter_sublist.map _)
  fresh := fun row h => db.fresh row (List.mem_of_mem_filter h)

def createDeduplicationRule (db : Database) (tenantId name : String) (rule : EnrichedRule) :
    Database where
  rules := db.rules ++ [create db.nextId tenantId name rule]
  nextId := db.nextId + 1
  distinct := by
    rw [List.map_append]
    refine List.nodup_append'.mpr ⟨db.distinct, List.nodup_singleton _, ?_⟩
    intro id hid hnew
    rcases List.mem_map.mp hid with ⟨row, hrow, rfl⟩
    exact absurd (List.mem_singleton.mp hnew) (Nat.ne_of_lt (db.fresh row hrow))
  fresh := by
    intro row h
    rcases List.mem_append.mp h with h | h
    · exact Nat.lt_succ_of_lt (db.fresh row h)
    · rw [List.mem_singleton.mp h]
      exact Nat.lt_succ_self _

/-- The row with the id takes the values; the other rows stay. -/
def updatedRow (tenantId : String) (ruleId : Nat) (name : String) (rule : EnrichedRule)
    (row : AlertDeduplicationRule) : AlertDeduplicationRule :=
  if row.id = ruleId ∧ row.tenantId = tenantId then row.provision rule name else row

theorem updatedRow_id (tenantId : String) (ruleId : Nat) (name : String) (rule : EnrichedRule)
    (row : AlertDeduplicationRule) : (updatedRow tenantId ruleId name rule row).id = row.id := by
  unfold updatedRow
  split <;> rfl

def writeRow (db : Database) (tenantId : String) (ruleId : Nat) (name : String)
    (rule : EnrichedRule) : Database where
  rules := db.rules.map (updatedRow tenantId ruleId name rule)
  nextId := db.nextId
  distinct := by
    rw [List.map_map]
    have hid : AlertDeduplicationRule.id ∘ updatedRow tenantId ruleId name rule =
        AlertDeduplicationRule.id := funext (updatedRow_id tenantId ruleId name rule)
    rw [hid]
    exact db.distinct
  fresh := by
    intro row h
    rcases List.mem_map.mp h with ⟨old, hold, rfl⟩
    rw [updatedRow_id]
    exact db.fresh old hold

def updateDeduplicationRule (db : Database) (tenantId : String) (ruleId : Nat) (name : String)
    (rule : EnrichedRule) : Except PyException Database :=
  if db.rules.any fun row => row.id == ruleId && row.tenantId == tenantId then
    .ok (db.writeRow tenantId ruleId name rule)
  else .error (.valueError ruleId)

end Database

/-!
## The provisioning
-/

section Provision

variable (tenantId : String)

/-- The provisioned rules that are not in the environment are deleted. -/
def deleteMissing (rules : List (String × EnrichedRule)) (db : Database) : Database :=
  ((db.provisioned tenantId).filter fun row => row.name ∉ rules.map Prod.fst).foldl
    (fun db row => db.deleteDeduplicationRule tenantId row.id) db

/-- One round of the loop over the rules. -/
def provisionRule (known : List (String × AlertDeduplicationRule)) (db : Database)
    (rule : String × EnrichedRule) : Except PyException Database :=
  match known.lookup rule.1 with
  | some row => db.updateDeduplicationRule tenantId row.id rule.1 rule.2
  | none => .ok (db.createDeduplicationRule tenantId rule.1 rule.2)

def provisionDeduplicationRules (installed : List InstalledProvider)
    (rules : List (String × Entry)) (db : Database) : Except PyException Database := do
  let enriched <- enrichWithProvidersInfo installed rules
  let known := Latest.index AlertDeduplicationRule.name (db.provisioned tenantId)
  enriched.foldlM (provisionRule tenantId known) (deleteMissing tenantId enriched db)

def provisionDeduplicationRulesFromEnv (installed : List InstalledProvider) (mapping : Mapping)
    (db : Database) : Except PyException Database :=
  match getDeduplicationRulesToProvision mapping with
  | none => .ok db
  | some rules => provisionDeduplicationRules tenantId installed rules db

end Provision

end Deduplication
end KeepGateway
