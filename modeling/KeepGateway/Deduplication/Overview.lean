import KeepGateway.Deduplication.Statistics
import KeepGateway.Lib.Buckets
import KeepGateway.Lib.Latest
import KeepGateway.Lib.Separated
import Mathlib.Data.Rat.Defs

/-!
# The overview of deduplication rules

`AlertDeduplicator.get_deduplications` of one tenant, with the rules, providers and events that
it reads.
-/

namespace KeepGateway
namespace Deduplication
namespace Overview

open Hours

structure DeduplicationRuleDto where
  id : Option String
  name : String
  description : String
  default : Bool
  distribution : Option (List HourNumber)
  providerId : Option String
  providerType : String
  lastUpdated : Option String
  lastUpdatedBy : Option String
  createdAt : Option String
  createdBy : Option String
  ingested : Nat
  dedupRatio : Rat
  enabled : Bool
  fingerprintFields : List String
  fullDeduplication : Bool
  ignoreFields : List String
  isProvisioned : Bool
  deriving DecidableEq, Repr

/-- A row, with its id and its times as `str` shows them. -/
structure AlertDeduplicationRule where
  id : String
  name : String
  description : String
  providerId : Option String
  providerType : String
  lastUpdated : String
  lastUpdatedBy : String
  createdAt : String
  createdBy : String
  enabled : Bool
  fingerprintFields : List String
  fullDeduplication : Bool
  ignoreFields : List String
  isProvisioned : Bool
  deriving DecidableEq, Repr

/-- The fields of a `Provider` that are read. -/
structure Provider where
  id : Option String
  displayName : String
  type : String
  tags : List String
  defaultFingerprintFields : Option (List String)
  deriving DecidableEq, Repr

/-- `[{"hour": i, "number": 0} for i in range(24)]` -/
def emptyDistribution : List HourNumber := buckets (fun i => i) fun _ => 0

/-- What an f-string shows of a value that may be missing. -/
def shown : Option String -> String
  | none => "None"
  | some value => value

/-- A string, as Python takes it for a condition. -/
def isSet (value : Option String) : Bool := value.any fun text => text ≠ ""

/-- `f"{provider_type}_{provider_id}"` -/
def keyOf (providerType : String) (providerId : Option String) : String :=
  providerType ++ "_" ++ shown providerId

/-- The key that a custom rule is filed under. -/
def customKey (rule : DeduplicationRuleDto) : String :=
  let key := keyOf rule.providerType rule.providerId
  if Separated.occursIn "null" key then
    String.ofList (Replace.replaceAll "null".toList "None".toList 0 key.toList)
  else key

/-!
## Providers
-/

/-- A provider that no code is there for. -/
def customProvider (providerType : String) : Provider where
  id := none
  displayName := providerType
  type := providerType
  tags := ["alert"]
  defaultFingerprintFields := none

/-- The body of the loop of `ProvidersFactory.get_linked_providers`. -/
def linkedProvider (available : List Provider) (row : String × Option String) : Provider :=
  { (available.find? fun provider => provider.type == row.1).getD (customProvider row.1) with
    id := row.2 }

def Provider.hasFingerprintFields (provider : Provider) : Bool :=
  provider.defaultFingerprintFields.any fun fields => fields ≠ []

/-- What the environment gives: the providers of the code, `str.lower`, `uuid.uuid5` in the
namespace of the deduplicator, and the two flags. -/
structure Environment where
  available : List Provider
  lower : String -> String
  uuid5 : String -> String
  customDeduplicationEnabled : Bool
  deduplicationDistributionEnabled : Bool

/-- What is stored for a tenant: its installed providers, the types and ids of its linked ones,
its rules and the events of deduplication. -/
structure Tenant where
  installed : List Provider
  linked : List (String × Option String)
  rules : List AlertDeduplicationRule
  events : List AlertDeduplicationEvent
  distinct : (rules.map AlertDeduplicationRule.id).Nodup

namespace Environment

variable (env : Environment)

/-- `[*installed_providers, *linked_providers]` -/
def providers (tenant : Tenant) : List Provider :=
  tenant.installed.filter (fun provider => "alert" ∈ provider.tags) ++
    tenant.linked.map (linkedProvider env.available)

/-!
## Rules
-/

/-- `_generate_uuid` -/
def generateUuid (providerId providerType : Option String) : String :=
  let keep := !isSet providerId && isSet providerType &&
    providerType.any fun text => env.lower text == "keep"
  env.uuid5 (shown providerId ++ "_" ++ shown (if keep then none else providerType))

/-- `_get_default_full_deduplication_rule` -/
def getDefaultFullDeduplicationRule (providerId providerType : Option String) :
    DeduplicationRuleDto :=
  let shownType := if isSet providerType then shown providerType else "keep"
  { id := some (env.generateUuid providerId providerType)
    name := shownType ++ " default deduplication rule"
    description := shownType ++ " default deduplication rule"
    default := true
    distribution := some emptyDistribution
    fingerprintFields := []
    providerType := shownType
    providerId := providerId
    fullDeduplication := true
    ignoreFields := ["last_received"]
    lastUpdated := none
    lastUpdatedBy := none
    createdAt := none
    createdBy := none
    ingested := 0
    dedupRatio := 0
    enabled := true
    isProvisioned := false }

/-- The rule that is made for a provider of the code, with the id that it then gets. -/
def defaultRule (provider : Provider) : DeduplicationRuleDto where
  id := some (env.generateUuid none (some provider.type))
  name := provider.type ++ "_default"
  description := provider.displayName ++ " default deduplication rule"
  default := true
  distribution := some emptyDistribution
  providerId := none
  providerType := provider.type
  lastUpdated := some ""
  lastUpdatedBy := some ""
  createdAt := some ""
  createdBy := some ""
  ingested := 0
  dedupRatio := 0
  enabled := true
  fingerprintFields := provider.defaultFingerprintFields.getD []
  fullDeduplication := false
  ignoreFields := []
  isProvisioned := false

/-- `ProvidersFactory.get_default_deduplication_rules` -/
def getDefaultDeduplicationRules : List DeduplicationRuleDto :=
  (env.available.filter Provider.hasFingerprintFields).map env.defaultRule

/-- `default_deduplications_dict` -/
def defaultDeduplications : List (String × DeduplicationRuleDto) :=
  Latest.index DeduplicationRuleDto.providerType env.getDefaultDeduplicationRules

/-- The copy of a default rule for a provider. -/
def copyFor (provider : Provider) (rule : DeduplicationRuleDto) : DeduplicationRuleDto :=
  let copy := { rule with id := some (env.generateUuid provider.id (some provider.type)) }
  if isSet provider.id then
    { copy with
      description := rule.description ++ " - " ++ shown provider.id
      providerId := provider.id }
  else copy

/-- The default rule of a provider, where it has one. -/
def defaultFor (provider : Provider) : Option DeduplicationRuleDto :=
  (env.defaultDeduplications.lookup provider.type).map (env.copyFor provider)

/-- What the overview shows of a rule of the table. -/
def customRule (rule : AlertDeduplicationRule) : DeduplicationRuleDto where
  id := some rule.id
  name := rule.name
  description := rule.description
  default := false
  distribution := some emptyDistribution
  fingerprintFields := rule.fingerprintFields
  providerType := rule.providerType
  providerId := rule.providerId
  fullDeduplication := rule.fullDeduplication
  ignoreFields := rule.ignoreFields
  lastUpdated := some rule.lastUpdated
  lastUpdatedBy := some rule.lastUpdatedBy
  createdAt := some rule.createdAt
  createdBy := some rule.createdBy
  ingested := 0
  dedupRatio := 0
  enabled := rule.enabled
  isProvisioned := rule.isProvisioned

/-- The custom rules that are in use. -/
def customRules (tenant : Tenant) : List DeduplicationRuleDto :=
  if env.customDeduplicationEnabled then tenant.rules.map customRule else []

def catchAll : DeduplicationRuleDto := env.getDefaultFullDeduplicationRule none none

end Environment

/-!
## The list that is extended
-/

/-- The dictionary of custom rules, and the list that is returned where it is not the bucket
`keep_None` of the dictionary itself. -/
structure Lists where
  custom : List (String × List DeduplicationRuleDto)
  own : Option (List DeduplicationRuleDto)

/-- The key of the rules for alerts without a provider. -/
def keepNone : String := "keep_None"

namespace Lists

/-- `final_deduplications` -/
def final (lists : Lists) : List DeduplicationRuleDto :=
  lists.own.getD ((lists.custom.lookup keepNone).getD [])

/-- `final_deduplications += rules` -/
def extend (rules : List DeduplicationRuleDto) (lists : Lists) : Lists :=
  match lists.own with
  | some own => { lists with own := some (own ++ rules) }
  | none => { lists with custom := Dict.set keepNone (lists.final ++ rules) lists.custom }

end Lists

namespace Environment

variable (env : Environment)

def start (tenant : Tenant) : Lists :=
  let custom := Buckets.fileAll customKey (env.customRules tenant)
  match custom.lookup keepNone with
  | some _ => ⟨custom, none⟩
  | none => ⟨custom, some [env.catchAll]⟩

/-- The body of the loop over the providers. -/
def addProvider (lists : Lists) (provider : Provider) : Lists :=
  match lists.custom.lookup (keyOf provider.type provider.id) with
  | some rules => lists.extend rules
  | none =>
      match env.defaultFor provider with
      | some rule => lists.extend [rule]
      | none => lists

def finalDeduplications (tenant : Tenant) : List DeduplicationRuleDto :=
  ((env.providers tenant).foldl env.addProvider (env.start tenant)).final

end Environment

/-!
## Statistics of a rule
-/

/-- The first loop over the list, for one rule. -/
def withStats (stats : AllStats) (dedup : DeduplicationRuleDto) : DeduplicationRuleDto :=
  let entry := dedup.id.bind fun id => stats.lookup id
  let fullDedup := (entry.map DeduplicationStats.fullDedupCount).getD 0
  let partialDedup := (entry.map DeduplicationStats.partialDedupCount).getD 0
  let noneDedup := (entry.map DeduplicationStats.noneDedupCount).getD 0
  let counted := { dedup with ingested := fullDedup + partialDedup + noneDedup }
  let dedupCount := fullDedup + partialDedup
  if counted.ingested = 0 then { counted with dedupRatio := 0 }
  else
    match entry with
    | none => { counted with dedupRatio := 0 }
    | some entry =>
        if dedupCount = 0 then { counted with dedupRatio := 0 }
        else
          { counted with
            dedupRatio := (dedupCount : Rat) / counted.ingested * 100
            distribution := some entry.alertsLast24Hours }

/-- The second loop over the list, for one rule: the entry that it reads is never there. -/
def withDistribution (stats : AllStats) (dedup : DeduplicationRuleDto) : DeduplicationRuleDto :=
  if stats.any fun entry => entry.1 == shown dedup.providerId ++ "_" ++ dedup.providerType then
    { dedup with distribution := none }
  else dedup

/-- The order of the list, the rules with `default` first. -/
def shownFirst (a b : DeduplicationRuleDto) : Bool := a.default || !b.default

/-- A single rule is not shown unless it has events. -/
def dropEmpty : List DeduplicationRuleDto -> List DeduplicationRuleDto
  | [rule] => if rule.ingested = 0 then [] else [rule]
  | result => result

/-- `get_deduplications` -/
def Environment.getDeduplications (env : Environment) (tenant : Tenant) {clock : Clock}
    (results : Results tenant.events clock) : List DeduplicationRuleDto :=
  let stats := getAllDeduplicationStats results
  let counted := (env.finalDeduplications tenant).map (withStats stats)
  let result :=
    if env.deduplicationDistributionEnabled then counted.map (withDistribution stats) else counted
  dropEmpty (result.mergeSort shownFirst)

end Overview
end Deduplication
end KeepGateway
