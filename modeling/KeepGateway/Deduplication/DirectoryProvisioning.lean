import KeepGateway.Deduplication.Reconciliation
import KeepGateway.Lib.Run

/-!
# Provisioning from a directory

`provision_providers` on the files of a directory, in the order in which they are listed: each
file installs or updates its provider, and one that is installed provisions its own rules.  `κ`
is the type of what a file gives for authentication, and `σ` of validated scopes.
-/

namespace KeepGateway
namespace Deduplication
namespace Directory

variable {κ σ : Type}

/-- A value of `pulling_enabled` -/
inductive PullingValue where
  | bool (value : Bool)
  | str (value : String)
  deriving DecidableEq, Repr

/-- A file of the directory; `authentication` is without its `pulling_enabled`. -/
structure File (κ : Type) where
  name : String
  type : String
  authentication : κ
  pullingEnabled : Option PullingValue
  deduplicationRules : List (String × RuleConfig)

namespace File

def pulls (file : File κ) : Bool :=
  match file.pullingEnabled with
  | none => true
  | some (.bool value) => value
  | some (.str value) => value.toLower == "true"

/-- The rules with the `name`, the `provider_name` and the `provider_type` put into them. -/
def rules (file : File κ) : List (String × Entry) :=
  file.deduplicationRules.map fun rule => (rule.1, ⟨rule.1, file.name, file.type, rule.2⟩)

end File

/-- A row of `provider` -/
structure Provider (σ : Type) where
  id : Nat
  name : String
  type : String
  validatedScopes : σ
  pullingEnabled : Bool
  provisioned : Bool
  deriving DecidableEq

/-- What a provider answers to `validate_scopes`, and what stands for no scopes. -/
structure Services (κ σ : Type) where
  validateScopes : String -> κ -> σ
  noScopes : σ

/-- The tables of a tenant: ids are keys of `provider`, and so are names. -/
@[ext] structure Tables (σ : Type) where
  providers : List (Provider σ)
  nextId : Nat
  rules : Database
  distinct : (providers.map Provider.id).Nodup
  fresh : forall row, row ∈ providers -> row.id < nextId
  names : (providers.map Provider.name).Nodup

section Operations

variable (s : Services κ σ)

def installed (file : File κ) (id : Nat) : Provider σ where
  id := id
  name := file.name
  type := file.type
  validatedScopes := s.noScopes
  pullingEnabled := true
  provisioned := true

/-- What `update_provider` sets; the type stays. -/
def Provider.update (file : File κ) (row : Provider σ) : Provider σ :=
  { row with
    validatedScopes := s.validateScopes row.type file.authentication
    pullingEnabled := file.pulls }

namespace Tables

def getProviderByName (t : Tables σ) (name : String) : Option (Provider σ) :=
  t.providers.find? fun row => row.name == name

/-- `ProvidersFactory.get_installed_providers` -/
def getInstalledProviders (t : Tables σ) : List InstalledProvider :=
  t.providers.map fun row => ⟨toString row.id, row.type, row.name⟩

theorem not_mem_names {t : Tables σ} {name : String} (h : t.getProviderByName name = none) :
    name ∉ t.providers.map Provider.name := by
  intro hmem
  rcases List.mem_map.mp hmem with ⟨row, hrow, heq⟩
  exact List.find?_eq_none.mp h row hrow (beq_iff_eq.mpr heq)

def installProvider (t : Tables σ) (file : File κ)
    (h : t.getProviderByName file.name = none) : Tables σ where
  providers := t.providers ++ [installed s file t.nextId]
  nextId := t.nextId + 1
  rules := t.rules
  distinct := by
    rw [List.map_append]
    refine List.nodup_append'.mpr ⟨t.distinct, List.nodup_singleton _, ?_⟩
    intro id hid hnew
    rcases List.mem_map.mp hid with ⟨row, hrow, heq⟩
    have hlt := t.fresh row hrow
    have hnext := List.mem_singleton.mp hnew
    exact absurd (heq.trans hnext) (Nat.ne_of_lt hlt)
  fresh := by
    intro row hrow
    rcases List.mem_append.mp hrow with hold | hnew
    · exact Nat.lt_succ_of_lt (t.fresh row hold)
    · rw [List.mem_singleton.mp hnew]
      exact Nat.lt_succ_self _
  names := by
    rw [List.map_append]
    refine List.nodup_append'.mpr ⟨t.names, List.nodup_singleton _, ?_⟩
    intro name hname hnew
    rw [List.mem_singleton.mp hnew] at hname
    exact not_mem_names h hname

def updatedRow (id : Nat) (file : File κ) (row : Provider σ) : Provider σ :=
  if row.id = id then row.update s file else row

theorem updatedRow_id (id : Nat) (file : File κ) (row : Provider σ) :
    (updatedRow s id file row).id = row.id := by
  unfold updatedRow
  split <;> rfl

theorem updatedRow_name (id : Nat) (file : File κ) (row : Provider σ) :
    (updatedRow s id file row).name = row.name := by
  unfold updatedRow
  split <;> rfl

def updateProvider (t : Tables σ) (id : Nat) (file : File κ) : Tables σ where
  providers := t.providers.map (updatedRow s id file)
  nextId := t.nextId
  rules := t.rules
  distinct := by
    rw [List.map_map, show Provider.id ∘ updatedRow s id file = Provider.id from
      funext (updatedRow_id s id file)]
    exact t.distinct
  fresh := by
    intro row hrow
    rcases List.mem_map.mp hrow with ⟨old, hold, heq⟩
    rw [← heq, updatedRow_id]
    exact t.fresh old hold
  names := by
    rw [List.map_map, show Provider.name ∘ updatedRow s id file = Provider.name from
      funext (updatedRow_name s id file)]
    exact t.names

def deleteProvider (t : Tables σ) (id : Nat) : Tables σ where
  providers := t.providers.filter fun row => row.id != id
  nextId := t.nextId
  rules := t.rules
  distinct := t.distinct.sublist (List.filter_sublist.map _)
  fresh := fun row h => t.fresh row (List.mem_of_mem_filter h)
  names := t.names.sublist (List.filter_sublist.map _)

end Tables

/-!
## The provisioning
-/

variable (tenantId : String)

/-- The body of the loop over the files.  An error is caught and logged. -/
def provisionFile (t : Tables σ) (file : File κ) : Tables σ :=
  match h : t.getProviderByName file.name with
  | some row => t.updateProvider s row.id file
  | none =>
      let t' := t.installProvider s file h
      if file.deduplicationRules.isEmpty then t'
      else
        match provisionDeduplicationRules tenantId t'.getInstalledProviders file.rules t'.rules with
        | .ok rules => { t' with rules := rules }
        | .error _ => t'

/-- `provision_providers` for a directory; every file adds its name to `installed_providers`. -/
def provisionProviders (t : Tables σ) (files : List (File κ)) : Tables σ :=
  let provisionedProviders := t.providers.filter Provider.provisioned
  let t' := files.foldl (provisionFile s tenantId) t
  (provisionedProviders.filter fun row => row.name ∉ files.map File.name).foldl
    (fun t row => t.deleteProvider row.id) t'

end Operations

end Directory
end Deduplication
end KeepGateway
