import KeepGateway.Lib.Dict
import KeepGateway.Lib.Run

/-!
# Installed providers and their credentials

`ProvidersService` keeps a row for each provider and its credentials in a secret store.  Any
request to the store or the database can fail.  `κ` is the type of what a provider is configured
with, and `σ` of validated scopes.
-/

namespace KeepGateway
namespace Providers

/-- What is stored as a secret. -/
structure Config (κ : Type) where
  authentication : κ
  name : String
  deriving DecidableEq, Repr

/-- A row of `provider` -/
structure Provider (σ : Type) where
  id : String
  tenantId : String
  name : String
  type : String
  installedBy : String
  configurationKey : String
  validatedScopes : σ
  consumer : Bool
  provisioned : Bool
  pullingEnabled : Bool
  deriving DecidableEq, Repr

structure Store (κ σ : Type) where
  providers : List (Provider σ)
  secrets : List (String × Config κ)
  deriving DecidableEq, Repr

/-- The providers themselves: the rendering of templates in `ProviderConfig`, whether the class of
a type is found and its constructor returns, and what it answers to `validate_scopes`. -/
structure Services (κ σ : Type) where
  render : κ -> κ
  known : String -> Bool
  accepts : String -> κ -> Bool
  validateScopes : String -> κ -> Option σ
  mandatoryValidated : String -> σ -> Bool
  noScopes : σ
  isConsumer : String -> Bool

/-- What can fail in a request, besides the provider. -/
inductive Site where
  | refreshSecret
  | writeSecret
  | readSecret
  | deleteSecret
  | commit
  deriving DecidableEq, Repr

inductive Refusal where
  | http (statusCode : Nat)
  | raised
  deriving DecidableEq, Repr

/-- What a request is answered with. -/
inductive Answer (κ σ : Type) where
  | installed (type id : String) (details : Config κ) (validatedScopes : σ)
  | updated (details : Config κ) (validatedScopes : σ)
  | validated (validatedScopes : σ)
  | deleted
  deriving DecidableEq, Repr

def secretName (tenantId type id : String) : String := tenantId ++ "_" ++ type ++ "_" ++ id

section Requests

variable {κ σ : Type} [DecidableEq κ] (sv : Services κ σ) (failing : List Site)

/-- `ProvidersFactory.get_provider`: whether a provider is returned, and the configuration, which
is rendered in place.  One that has changed is written to the store, also where the constructor
raises. -/
def getProvider (tenantId providerId type : String) (config : Config κ) (s : Store κ σ) :
    Bool × Config κ × Store κ σ :=
  if sv.known type then
    let rendered := { config with authentication := sv.render config.authentication }
    if rendered.authentication = config.authentication then
      (sv.accepts type config.authentication, config, s)
    else if .refreshSecret ∈ failing then (false, rendered, s)
    else
      (sv.accepts type rendered.authentication, rendered,
        { s with secrets := Dict.set (secretName tenantId type providerId) rendered s.secrets })
  else (false, config, s)

structure InstallRequest (κ : Type) where
  tenantId : String
  installedBy : String
  providerId : String
  providerName : String
  providerType : String
  providerConfig : κ
  provisioned : Bool
  validateScopes : Bool
  pullingEnabled : Bool
  deriving DecidableEq, Repr

/-- `validate_scopes` with `validate_mandatory`; `none` is the status 412. -/
def validatedScopes (type : String) (authentication : κ) : Option σ :=
  match sv.validateScopes type authentication with
  | none => none
  | some scopes => if sv.mandatoryValidated type scopes then some scopes else none

def hasName (tenantId name : String) (row : Provider σ) : Bool :=
  row.tenantId == tenantId && row.name == name

/-- The row of a new provider. -/
def InstallRequest.row (r : InstallRequest κ) (newId : String) (scopes : σ) : Provider σ where
  id := newId
  tenantId := r.tenantId
  name := r.providerName
  type := r.providerType
  installedBy := r.installedBy
  configurationKey := secretName r.tenantId r.providerType newId
  validatedScopes := scopes
  consumer := sv.isConsumer r.providerType
  provisioned := r.provisioned
  pullingEnabled := r.pullingEnabled

/-- `install_provider`, with the new unique id. -/
def installProvider (newId : String) (r : InstallRequest κ) (s : Store κ σ) :
    Except Refusal (Answer κ σ) × Store κ σ :=
  match getProvider sv failing r.tenantId r.providerId r.providerType
    ⟨r.providerConfig, r.providerName⟩ s with
  | (false, _, s) => (.error (.http 400), s)
  | (true, config, s) =>
      match if r.validateScopes then validatedScopes sv r.providerType config.authentication
        else some sv.noScopes with
      | none => (.error (.http 412), s)
      | some scopes =>
          if .writeSecret ∈ failing then (.error .raised, s)
          else
            let key := secretName r.tenantId r.providerType newId
            let s := { s with secrets := Dict.set key config s.secrets }
            if .commit ∈ failing then (.error .raised, s)
            else if s.providers.any (hasName r.tenantId r.providerName) then
              (.error (.http 409),
                if .deleteSecret ∈ failing then s
                else { s with secrets := Dict.erase key s.secrets })
            else
              (.ok (.installed r.providerType newId config scopes),
                { s with providers := s.providers ++ [r.row sv newId scopes] })

structure UpdateRequest (κ : Type) where
  tenantId : String
  providerId : String
  providerInfo : κ
  updatedBy : String
  pullingEnabled : Bool
  allowProvisioned : Bool
  deriving DecidableEq, Repr

def isRow (tenantId id : String) (row : Provider σ) : Bool :=
  row.tenantId == tenantId && row.id == id

def UpdateRequest.updated (r : UpdateRequest κ) (scopes : σ) (row : Provider σ) : Provider σ :=
  { row with
    installedBy := r.updatedBy, validatedScopes := scopes, pullingEnabled := r.pullingEnabled }

def updateProvider (r : UpdateRequest κ) (s : Store κ σ) :
    Except Refusal (Answer κ σ) × Store κ σ :=
  match s.providers.find? (isRow r.tenantId r.providerId) with
  | none => (.error (.http 404), s)
  | some row =>
      if row.provisioned && !r.allowProvisioned then (.error (.http 403), s)
      else
        match getProvider sv failing r.tenantId r.providerId row.type
          ⟨r.providerInfo, row.name⟩ s with
        | (false, _, s) => (.error (.http 400), s)
        | (true, config, s) =>
            match sv.validateScopes row.type config.authentication with
            | none => (.error .raised, s)
            | some scopes =>
                if .writeSecret ∈ failing then (.error .raised, s)
                else
                  let s := { s with secrets := Dict.set row.configurationKey config s.secrets }
                  if .commit ∈ failing then (.error .raised, s)
                  else
                    (.ok (.updated config scopes),
                      { s with
                        providers := s.providers.map fun other =>
                          if isRow r.tenantId r.providerId other then r.updated scopes other
                          else other })

structure DeleteRequest where
  tenantId : String
  providerId : String
  allowProvisioned : Bool
  deriving DecidableEq, Repr

/-- `delete_provider`: what fails after the secret is read is passed over, up to the commit. -/
def deleteProvider (r : DeleteRequest) (s : Store κ σ) :
    Except Refusal (Answer κ σ) × Store κ σ :=
  match s.providers.find? (isRow r.tenantId r.providerId) with
  | none => (.error (.http 404), s)
  | some row =>
      if row.provisioned && !r.allowProvisioned then (.error (.http 403), s)
      else
        match if .readSecret ∈ failing then none else s.secrets.lookup row.configurationKey with
        | none => (.error .raised, s)
        | some config =>
            let s :=
              if .deleteSecret ∈ failing then s
              else { s with secrets := Dict.erase row.configurationKey s.secrets }
            -- The provider is constructed once more to be cleaned up.
            let s := (getProvider sv failing r.tenantId row.id row.type config s).2.2
            if .commit ∈ failing then (.error .raised, s)
            else
              (.ok .deleted,
                { s with
                  providers := s.providers.filter fun other =>
                    !isRow r.tenantId r.providerId other })

structure ValidateRequest where
  tenantId : String
  providerId : String
  deriving DecidableEq, Repr

def Provider.revalidated (scopes : σ) (row : Provider σ) : Provider σ :=
  { row with validatedScopes := scopes }

/-- The endpoint `validate_provider_scopes`, whose query raises where there is no row. -/
def validateProviderScopes [DecidableEq σ] (r : ValidateRequest) (s : Store κ σ) :
    Except Refusal (Answer κ σ) × Store κ σ :=
  match s.providers.find? (isRow r.tenantId r.providerId) with
  | none => (.error .raised, s)
  | some row =>
      match if .readSecret ∈ failing then none else s.secrets.lookup row.configurationKey with
      | none => (.error .raised, s)
      | some config =>
          match getProvider sv failing r.tenantId r.providerId row.type config s with
          | (false, _, s) => (.error .raised, s)
          | (true, config, s) =>
              match sv.validateScopes row.type config.authentication with
              | none => (.error .raised, s)
              | some scopes =>
                  if scopes = row.validatedScopes then (.ok (.validated scopes), s)
                  else if .commit ∈ failing then (.error .raised, s)
                  else
                    (.ok (.validated scopes),
                      { s with
                        providers := s.providers.map fun other =>
                          if isRow r.tenantId r.providerId other then other.revalidated scopes
                          else other })

/-!
## Runs
-/

inductive Request (κ : Type) where
  | install (newId : String) (request : InstallRequest κ)
  | update (request : UpdateRequest κ)
  | delete (request : DeleteRequest)
  | validate (request : ValidateRequest)
  deriving DecidableEq, Repr

/-- A request with what fails in it. -/
structure Attempt (κ : Type) where
  request : Request κ
  failing : List Site
  deriving DecidableEq, Repr

variable [DecidableEq σ]

def Attempt.run (attempt : Attempt κ) (s : Store κ σ) :
    Except Refusal (Answer κ σ) × Store κ σ :=
  match attempt.request with
  | .install newId request => installProvider sv attempt.failing newId request s
  | .update request => updateProvider sv attempt.failing request s
  | .delete request => deleteProvider sv attempt.failing request s
  | .validate request => validateProviderScopes sv attempt.failing request s

def Request.tenantId : Request κ -> String
  | .install _ request => request.tenantId
  | .update request => request.tenantId
  | .delete request => request.tenantId
  | .validate request => request.tenantId

def afterAttempts (s : Store κ σ) (attempts : List (Attempt κ)) : Store κ σ :=
  attempts.foldl (fun s attempt => (attempt.run sv s).2) s

end Requests

/-!
## Names of secrets
-/

/-- The id is the last part of the name. -/
theorem id_of_secretName {tenantId type id tenantId' type' id' : String} (hid : '_' ∉ id.toList)
    (hid' : '_' ∉ id'.toList) (h : secretName tenantId type id = secretName tenantId' type' id') :
    id = id' := by
  have hlast : forall tenantId type id : String, '_' ∉ id.toList ->
      (secretName tenantId type id).toList.reverse.takeWhile (fun c => c != '_') =
        id.toList.reverse := by
    intro tenantId type id hid
    have hplain : forall c, c ∈ id.toList.reverse -> (c != '_') = true := by
      intro c hc
      apply bne_iff_ne.mpr
      intro heq
      exact hid (heq ▸ List.mem_reverse.mp hc)
    unfold secretName
    rw [String.toList_append, List.reverse_append, List.takeWhile_append_of_pos hplain,
      String.toList_append, List.reverse_append]
    show id.toList.reverse ++ [] = _
    rw [List.append_nil]
  have hreverse := (hlast tenantId type id hid).symm.trans
    ((congrArg (fun name => name.toList.reverse.takeWhile fun c => c != '_') h).trans
      (hlast tenantId' type' id' hid'))
  exact String.toList_injective (List.reverse_injective hreverse)

/-- The tenant is the first part of the name. -/
theorem tenant_of_secretName {tenantId type id tenantId' type' id' : String}
    (htenant : '_' ∉ tenantId.toList) (htenant' : '_' ∉ tenantId'.toList)
    (h : secretName tenantId type id = secretName tenantId' type' id') : tenantId = tenantId' := by
  have hfirst : forall tenantId type id : String, '_' ∉ tenantId.toList ->
      (secretName tenantId type id).toList.takeWhile (fun c => c != '_') = tenantId.toList := by
    intro tenantId type id htenant
    have hplain : forall c, c ∈ tenantId.toList -> (c != '_') = true := by
      intro c hc
      apply bne_iff_ne.mpr
      intro heq
      exact htenant (heq ▸ hc)
    unfold secretName
    rw [String.append_assoc, String.append_assoc, String.append_assoc, String.toList_append,
      List.takeWhile_append_of_pos hplain, String.toList_append]
    show tenantId.toList ++ [] = _
    rw [List.append_nil]
  exact String.toList_injective ((hfirst tenantId type id htenant).symm.trans
    ((congrArg (fun name => name.toList.takeWhile fun c => c != '_') h).trans
      (hfirst tenantId' type' id' htenant')))

/-!
## Providers with their credentials

What the two stores are for: each provider has its credentials with it, and a request does what
it does at once.
-/

structure Installed (κ σ : Type) where
  provider : Provider σ
  authentication : κ
  deriving DecidableEq, Repr

def Installed.config {κ σ : Type} (e : Installed κ σ) : Config κ :=
  ⟨e.authentication, e.provider.name⟩

section Directory

variable {κ σ : Type} (sv : Services κ σ)

/-- The scopes that a new provider is stored with. -/
def InstallRequest.scopes (r : InstallRequest κ) : σ :=
  if r.validateScopes then (validatedScopes sv r.providerType r.providerConfig).getD sv.noScopes
  else sv.noScopes

/-- What a request does to the providers, once it is granted. -/
def Request.perform (entries : List (Installed κ σ)) : Request κ -> List (Installed κ σ)
  | .install newId r => entries ++ [⟨r.row sv newId (r.scopes sv), r.providerConfig⟩]
  | .update r => entries.map fun e =>
      if isRow r.tenantId r.providerId e.provider then
        ⟨r.updated ((sv.validateScopes e.provider.type r.providerInfo).getD sv.noScopes) e.provider,
          r.providerInfo⟩
      else e
  | .delete r => entries.filter fun e => !isRow r.tenantId r.providerId e.provider
  | .validate r => entries.map fun e =>
      if isRow r.tenantId r.providerId e.provider then
        ⟨e.provider.revalidated
          ((sv.validateScopes e.provider.type e.authentication).getD sv.noScopes),
          e.authentication⟩
      else e

/-- Ids and names are unique, and nothing is left to be rendered. -/
structure Sound (entries : List (Installed κ σ)) : Prop where
  ids : (entries.map fun e => e.provider.id).Nodup
  names : (entries.map fun e => (e.provider.tenantId, e.provider.name)).Nodup
  keyed : forall e, e ∈ entries -> e.provider.configurationKey =
    secretName e.provider.tenantId e.provider.type e.provider.id
  separated : forall e, e ∈ entries -> '_' ∉ e.provider.id.toList
  plain : forall e, e ∈ entries -> sv.render e.authentication = e.authentication

/-- The secrets that go with the providers. -/
def credentials (entries : List (Installed κ σ)) : List (String × Config κ) :=
  entries.map fun e => (e.provider.configurationKey, e.config)

/-- The rows are those of the providers, and the secrets are their credentials and nothing
else. -/
structure Represents (entries : List (Installed κ σ)) (s : Store κ σ) : Prop where
  providers : s.providers = entries.map Installed.provider
  secrets : forall key, s.secrets.lookup key = (credentials entries).lookup key

variable {sv} {s : Store κ σ} {entries : List (Installed κ σ)}

/-!
## Agreement of the stores
-/

/-- What no update of a row changes. -/
def Provider.identity (row : Provider σ) : String × String × String × String × String :=
  (row.id, row.tenantId, row.name, row.type, row.configurationKey)

theorem isRow_iff {tenantId id : String} {row : Provider σ} :
    isRow tenantId id row = true <-> row.tenantId = tenantId ∧ row.id = id := by
  unfold isRow
  rw [Bool.and_eq_true, beq_iff_eq, beq_iff_eq]

theorem Sound.eq_of_id (h : Sound sv entries) {e f : Installed κ σ} (he : e ∈ entries)
    (hf : f ∈ entries) (hid : e.provider.id = f.provider.id) : e = f :=
  List.inj_on_of_nodup_map h.ids he hf hid

theorem Sound.eq_of_key (h : Sound sv entries) {e f : Installed κ σ} (he : e ∈ entries)
    (hf : f ∈ entries) (hkey : e.provider.configurationKey = f.provider.configurationKey) :
    e = f := by
  rw [h.keyed e he, h.keyed f hf] at hkey
  exact h.eq_of_id he hf (id_of_secretName (h.separated e he) (h.separated f hf) hkey)

/-- A name that ends in a new id is not that of a secret. -/
theorem Sound.key_ne (h : Sound sv entries) {newId : String} (hnew : '_' ∉ newId.toList)
    (hfresh : newId ∉ entries.map fun e => e.provider.id) (tenantId type : String)
    {e : Installed κ σ} (he : e ∈ entries) :
    e.provider.configurationKey ≠ secretName tenantId type newId := by
  intro hkey
  rw [h.keyed e he] at hkey
  exact hfresh (List.mem_map.mpr ⟨e, he, id_of_secretName (h.separated e he) hnew hkey⟩)

theorem Sound.lookup_new (h : Sound sv entries) {newId : String} (hnew : '_' ∉ newId.toList)
    (hfresh : newId ∉ entries.map fun e => e.provider.id) (tenantId type : String) :
    (credentials entries).lookup (secretName tenantId type newId) = none := by
  apply Dict.lookup_eq_none.mpr
  intro hmem
  rcases List.mem_map.mp hmem with ⟨pair, hpair, hkey⟩
  rcases List.mem_map.mp hpair with ⟨e, he, heq⟩
  rw [← heq] at hkey
  exact h.key_ne hnew hfresh tenantId type he hkey

theorem Sound.distinct (h : Sound sv entries) : Dict.Distinct (credentials entries) := by
  unfold Dict.Distinct credentials
  rw [List.map_map]
  apply List.Nodup.map_on
  · intro e he f hf hkey
    exact h.eq_of_key he hf hkey
  · exact h.ids.of_map

theorem Represents.lookup_iff (h : Sound sv entries) (hs : Represents entries s) {key : String}
    {config : Config κ} :
    s.secrets.lookup key = some config <->
      exists e, e ∈ entries ∧ (e.provider.configurationKey, e.config) = (key, config) := by
  rw [hs.secrets, h.distinct.lookup]
  exact List.mem_map

theorem Represents.find_row (hs : Represents entries s) {tenantId id : String} {row : Provider σ}
    (h : s.providers.find? (isRow tenantId id) = some row) :
    exists e, e ∈ entries ∧ e.provider = row ∧ row.tenantId = tenantId ∧ row.id = id := by
  have hmem := List.mem_of_find?_eq_some h
  rw [hs.providers] at hmem
  rcases List.mem_map.mp hmem with ⟨e, he, heq⟩
  rcases isRow_iff.mp (List.find?_some h) with ⟨htenant, hid⟩
  exact ⟨e, he, heq, htenant, hid⟩

/-- Among the providers only the one of the row has its tenant and id. -/
theorem Sound.isRow_iff_eq (h : Sound sv entries) {e f : Installed κ σ} (he : e ∈ entries)
    (hf : f ∈ entries) :
    isRow e.provider.tenantId e.provider.id f.provider = true <-> f = e := by
  rw [isRow_iff]
  constructor
  · intro hrow
    exact h.eq_of_id hf he hrow.2
  · intro heq
    rw [heq]
    exact ⟨rfl, rfl⟩

theorem represents_install (h : Sound sv entries) (hs : Represents entries s) {newId : String}
    (hnew : '_' ∉ newId.toList) (hfresh : newId ∉ entries.map fun e => e.provider.id)
    (r : InstallRequest κ) :
    Represents ((Request.install newId r).perform sv entries)
      { providers := s.providers ++ [r.row sv newId (r.scopes sv)]
        secrets := Dict.set (secretName r.tenantId r.providerType newId)
          ⟨r.providerConfig, r.providerName⟩ s.secrets } := by
  constructor
  · show s.providers ++ _ = (entries ++ [_]).map Installed.provider
    rw [List.map_append, hs.providers]
    rfl
  · intro key
    show (Dict.set _ _ s.secrets).lookup key = (credentials (entries ++ [_])).lookup key
    unfold credentials
    rw [List.map_append, List.lookup_append, Dict.lookup_set]
    show _ = ((credentials entries).lookup key).or (List.lookup key
      [(secretName r.tenantId r.providerType newId, ⟨r.providerConfig, r.providerName⟩)])
    rw [Dict.lookup_cons_eq]
    split
    · rename_i hkey
      rw [← hkey, h.lookup_new hnew hfresh]
      rfl
    · rw [hs.secrets, List.lookup_nil, Option.or_none]

theorem represents_update (h : Sound sv entries) (hs : Represents entries s)
    {r : UpdateRequest κ} {row : Provider σ} {scopes : σ}
    (hrow : s.providers.find? (isRow r.tenantId r.providerId) = some row)
    (hscopes : sv.validateScopes row.type r.providerInfo = some scopes) :
    Represents ((Request.update r).perform sv entries)
      { providers := s.providers.map fun other =>
          if isRow r.tenantId r.providerId other then r.updated scopes other else other
        secrets := Dict.set row.configurationKey ⟨r.providerInfo, row.name⟩ s.secrets } := by
  rcases hs.find_row hrow with ⟨own, hown, hprovider, htenant, hid⟩
  have hiff : forall e, e ∈ entries ->
      (isRow r.tenantId r.providerId e.provider = true <-> e = own) := by
    intro e he
    rw [← htenant, ← hid, ← hprovider]
    exact h.isRow_iff_eq hown he
  constructor
  · show s.providers.map _ = (entries.map _).map Installed.provider
    rw [hs.providers, List.map_map, List.map_map]
    apply List.map_congr_left
    intro e he
    rw [Function.comp_apply, Function.comp_apply]
    split
    · rename_i hmatch
      have htype : e.provider.type = row.type := by
        rw [(hiff e he).mp hmatch, hprovider]
      rw [htype, hscopes]
      rfl
    · rfl
  · have hreplaced : credentials ((Request.update r).perform sv entries) =
        (credentials entries).map fun pair =>
          (pair.1, if pair.1 = row.configurationKey then ⟨r.providerInfo, row.name⟩
            else pair.2) := by
      show (entries.map _).map _ = (entries.map _).map _
      rw [List.map_map, List.map_map]
      apply List.map_congr_left
      intro e he
      rw [Function.comp_apply, Function.comp_apply]
      by_cases hmatch : isRow r.tenantId r.providerId e.provider = true
      · rw [if_pos hmatch, if_pos (by rw [(hiff e he).mp hmatch, hprovider]),
          ← hprovider, ← (hiff e he).mp hmatch]
        rfl
      · rw [if_neg hmatch, if_neg]
        intro hkey
        rw [← hprovider] at hkey
        exact hmatch ((hiff e he).mpr (h.eq_of_key he hown hkey))
    intro key
    show (Dict.set _ _ s.secrets).lookup key = _
    rw [hreplaced, Dict.lookup_replaced, Dict.lookup_set, ← hs.secrets]
    split
    · rename_i hkey
      have hstored := (hs.lookup_iff h).mpr ⟨own, hown, rfl⟩
      rw [hprovider, hkey] at hstored
      rw [hstored]
      rfl
    · rfl

theorem represents_delete (h : Sound sv entries) (hs : Represents entries s)
    {r : DeleteRequest} {row : Provider σ}
    (hrow : s.providers.find? (isRow r.tenantId r.providerId) = some row) :
    Represents ((Request.delete r).perform sv entries)
      { providers := s.providers.filter fun other => !isRow r.tenantId r.providerId other
        secrets := Dict.erase row.configurationKey s.secrets } := by
  rcases hs.find_row hrow with ⟨own, hown, hprovider, htenant, hid⟩
  have hiff : forall e, e ∈ entries ->
      (isRow r.tenantId r.providerId e.provider = true <-> e = own) := by
    intro e he
    rw [← htenant, ← hid, ← hprovider]
    exact h.isRow_iff_eq hown he
  constructor
  · show s.providers.filter _ = (entries.filter _).map Installed.provider
    rw [hs.providers, List.filter_map]
    rfl
  · have herased : credentials ((Request.delete r).perform sv entries) =
        Dict.erase row.configurationKey (credentials entries) := by
      show (entries.filter _).map _ = (entries.map _).filter _
      rw [List.filter_map]
      congr 1
      apply List.filter_congr
      intro e he
      rw [Function.comp_apply, Bool.eq_iff_iff, Bool.not_eq_true', Bool.eq_false_iff, Ne,
        hiff e he, decide_eq_true_iff, not_iff_not, ← hprovider]
      constructor
      · intro heq
        rw [heq]
      · intro hkey
        exact h.eq_of_key he hown hkey
    intro key
    show (Dict.erase _ s.secrets).lookup key = _
    rw [herased, Dict.lookup_erase, Dict.lookup_erase, hs.secrets]

theorem Represents.config_of_row (h : Sound sv entries) (hs : Represents entries s)
    {own : Installed κ σ} (hown : own ∈ entries) {config : Config κ}
    (hlookup : s.secrets.lookup own.provider.configurationKey = some config) :
    config = own.config := by
  rcases (hs.lookup_iff h).mp hlookup with ⟨e, he, heq⟩
  rcases Prod.mk.inj heq with ⟨hkey, hconfig⟩
  rw [← hconfig, h.eq_of_key he hown hkey]

theorem represents_validate (h : Sound sv entries) (hs : Represents entries s)
    {r : ValidateRequest} {row : Provider σ} {config : Config κ} {scopes : σ}
    (hrow : s.providers.find? (isRow r.tenantId r.providerId) = some row)
    (hconfig : s.secrets.lookup row.configurationKey = some config)
    (hscopes : sv.validateScopes row.type config.authentication = some scopes) :
    Represents ((Request.validate r).perform sv entries)
      { s with
        providers := s.providers.map fun other =>
          if isRow r.tenantId r.providerId other then other.revalidated scopes else other } := by
  rcases hs.find_row hrow with ⟨own, hown, hprovider, htenant, hid⟩
  rw [← hprovider] at hconfig hscopes
  rw [hs.config_of_row h hown hconfig] at hscopes
  have heach : forall e, e ∈ entries ->
      (if isRow r.tenantId r.providerId e.provider then
        ⟨e.provider.revalidated
          ((sv.validateScopes e.provider.type e.authentication).getD sv.noScopes),
          e.authentication⟩
      else e) = (⟨if isRow r.tenantId r.providerId e.provider then e.provider.revalidated scopes
        else e.provider, e.authentication⟩ : Installed κ σ) := by
    intro e he
    split
    · rename_i hmatch
      rw [← htenant, ← hid, ← hprovider, h.isRow_iff_eq hown he] at hmatch
      rw [hmatch]
      show (⟨own.provider.revalidated ((sv.validateScopes own.provider.type
        own.config.authentication).getD sv.noScopes), own.authentication⟩ : Installed κ σ) = _
      rw [hscopes]
      rfl
    · rfl
  constructor
  · show s.providers.map _ = (entries.map _).map Installed.provider
    rw [hs.providers, List.map_map, List.map_map]
    apply List.map_congr_left
    intro e he
    rw [Function.comp_apply, Function.comp_apply, heach e he]
  · intro key
    rw [hs.secrets]
    apply congrArg
    show entries.map _ = (entries.map _).map _
    rw [List.map_map]
    apply List.map_congr_left
    intro e he
    rw [Function.comp_apply, heach e he]
    split
    · rfl
    · rfl

/-- Scopes that are the stored ones already are no change. -/
theorem Represents.revalidated_eq (h : Sound sv entries) (hs : Represents entries s)
    {tenantId id : String} {row : Provider σ}
    (hrow : s.providers.find? (isRow tenantId id) = some row) :
    (s.providers.map fun other =>
      if isRow tenantId id other then other.revalidated row.validatedScopes else other) =
      s.providers := by
  rcases hs.find_row hrow with ⟨own, hown, hprovider, htenant, hid⟩
  apply Eq.trans (List.map_congr_left ?_) (List.map_id _)
  intro other hother
  rw [id_eq]
  split
  · rename_i hmatch
    rw [hs.providers] at hother
    rcases List.mem_map.mp hother with ⟨e, he, heq⟩
    rw [← heq, ← htenant, ← hid, ← hprovider, h.isRow_iff_eq hown he] at hmatch
    rw [← heq, hmatch, hprovider]
    rfl
  · rfl

/-- A secret that is written and taken back was not there before. -/
theorem represents_refused (h : Sound sv entries) (hs : Represents entries s) {newId : String}
    (hnew : '_' ∉ newId.toList) (hfresh : newId ∉ entries.map fun e => e.provider.id)
    (tenantId type : String) (config : Config κ) :
    Represents entries
      { s with
        secrets := Dict.erase (secretName tenantId type newId)
          (Dict.set (secretName tenantId type newId) config s.secrets) } := by
  refine ⟨hs.providers, fun key => ?_⟩
  show (Dict.erase _ (Dict.set _ _ s.secrets)).lookup key = _
  rw [Dict.lookup_erase]
  split
  · rename_i hkey
    rw [← hkey, h.lookup_new hnew hfresh]
  · rename_i hkey
    rw [Dict.lookup_set_ne hkey, hs.secrets]

theorem Represents.free_of_any (hs : Represents entries s) {tenantId name : String}
    (h : s.providers.any (hasName tenantId name) = false) :
    (tenantId, name) ∉ entries.map fun e => (e.provider.tenantId, e.provider.name) := by
  intro hmem
  rcases List.mem_map.mp hmem with ⟨e, he, heq⟩
  rcases Prod.mk.inj heq with ⟨htenant, hname⟩
  apply Bool.eq_false_iff.mp h
  apply List.any_eq_true.mpr
  refine ⟨e.provider, hs.providers ▸ List.mem_map_of_mem he, ?_⟩
  unfold hasName
  rw [htenant, hname, beq_self_eq_true, beq_self_eq_true]
  rfl

theorem sound_install (h : Sound sv entries) {newId : String} {r : InstallRequest κ}
    (hfresh : newId ∉ entries.map fun e => e.provider.id) (hnew : '_' ∉ newId.toList)
    (hfree : (r.tenantId, r.providerName) ∉
      entries.map fun e => (e.provider.tenantId, e.provider.name))
    (hplain : sv.render r.providerConfig = r.providerConfig) :
    Sound sv ((Request.install newId r).perform sv entries) := by
  unfold Request.perform
  constructor
  · rw [List.map_append]
    apply h.ids.append (List.nodup_singleton _)
    intro id hid hlast
    rw [List.mem_singleton.mp hlast] at hid
    exact hfresh hid
  · rw [List.map_append]
    apply h.names.append (List.nodup_singleton _)
    intro name hname hlast
    rw [List.mem_singleton.mp hlast] at hname
    exact hfree hname
  · intro e he
    rcases List.mem_append.mp he with hmem | hlast
    · exact h.keyed e hmem
    · rw [List.mem_singleton.mp hlast]
      rfl
  · intro e he
    rcases List.mem_append.mp he with hmem | hlast
    · exact h.separated e hmem
    · rw [List.mem_singleton.mp hlast]
      exact hnew
  · intro e he
    rcases List.mem_append.mp he with hmem | hlast
    · exact h.plain e hmem
    · rw [List.mem_singleton.mp hlast]
      exact hplain

theorem Sound.map (h : Sound sv entries) {f : Installed κ σ -> Installed κ σ}
    (hf : forall e, e ∈ entries -> (f e).provider.identity = e.provider.identity)
    (hplain : forall e, e ∈ entries ->
      sv.render (f e).authentication = (f e).authentication) : Sound sv (entries.map f) := by
  have hkept : forall {α : Type} (read : Installed κ σ -> α),
      (forall e, e ∈ entries -> read (f e) = read e) ->
      (entries.map f).map read = entries.map read := by
    intro α read hread
    rw [List.map_map]
    exact List.map_congr_left hread
  have heach : forall p : Installed κ σ -> Prop, (forall e, e ∈ entries -> p (f e)) ->
      forall e, e ∈ entries.map f -> p e := by
    intro p hp e he
    rcases List.mem_map.mp he with ⟨before, hbefore, heq⟩
    rw [← heq]
    exact hp before hbefore
  constructor
  · rw [hkept _ fun e he => congrArg Prod.fst (hf e he)]
    exact h.ids
  · rw [hkept _ fun e he => congrArg (fun key => (key.2.1, key.2.2.1)) (hf e he)]
    exact h.names
  · apply heach
    intro e he
    have hsame := hf e he
    unfold Provider.identity at hsame
    simp only [Prod.mk.injEq] at hsame
    rcases hsame with ⟨hid, htenant, _, htype, hkey⟩
    rw [hkey, htenant, htype, hid]
    exact h.keyed e he
  · apply heach
    intro e he
    have hid : (f e).provider.id = e.provider.id := congrArg Prod.fst (hf e he)
    rw [hid]
    exact h.separated e he
  · exact heach _ hplain

theorem map_id_of_identity {f : Installed κ σ -> Installed κ σ}
    (hf : forall e, e ∈ entries -> (f e).provider.identity = e.provider.identity) :
    ((entries.map f).map fun e => e.provider.id) = entries.map fun e => e.provider.id := by
  rw [List.map_map]
  apply List.map_congr_left
  intro e he
  exact congrArg Prod.fst (hf e he)

theorem identity_update (sv : Services κ σ) (r : UpdateRequest κ) (e : Installed κ σ) :
    (if isRow r.tenantId r.providerId e.provider then
      (⟨r.updated ((sv.validateScopes e.provider.type r.providerInfo).getD sv.noScopes)
        e.provider, r.providerInfo⟩ : Installed κ σ)
    else e).provider.identity = e.provider.identity := by
  split
  · rfl
  · rfl

theorem identity_validate (sv : Services κ σ) (r : ValidateRequest) (e : Installed κ σ) :
    (if isRow r.tenantId r.providerId e.provider then
      (⟨e.provider.revalidated
        ((sv.validateScopes e.provider.type e.authentication).getD sv.noScopes),
        e.authentication⟩ : Installed κ σ)
    else e).provider.identity = e.provider.identity := by
  split
  · rfl
  · rfl

theorem ids_update (r : UpdateRequest κ) :
    (((Request.update r).perform sv entries).map fun e => e.provider.id) =
      entries.map fun e => e.provider.id :=
  map_id_of_identity fun e _ => identity_update sv r e

theorem ids_validate (r : ValidateRequest) :
    (((Request.validate r).perform sv entries).map fun e => e.provider.id) =
      entries.map fun e => e.provider.id :=
  map_id_of_identity fun e _ => identity_validate sv r e

theorem sound_update (h : Sound sv entries) {r : UpdateRequest κ}
    (hplain : sv.render r.providerInfo = r.providerInfo) :
    Sound sv ((Request.update r).perform sv entries) := by
  apply h.map fun e _ => identity_update sv r e
  intro e he
  split
  · exact hplain
  · exact h.plain e he

theorem sound_validate (h : Sound sv entries) (r : ValidateRequest) :
    Sound sv ((Request.validate r).perform sv entries) := by
  apply h.map fun e _ => identity_validate sv r e
  intro e he
  split
  · exact h.plain e he
  · exact h.plain e he

theorem sound_delete (h : Sound sv entries) (r : DeleteRequest) :
    Sound sv ((Request.delete r).perform sv entries) := by
  have hmem : forall e, e ∈ (Request.delete r).perform sv entries -> e ∈ entries :=
    fun e he => List.mem_of_mem_filter he
  exact ⟨h.ids.sublist (List.filter_sublist.map _), h.names.sublist (List.filter_sublist.map _),
    fun e he => h.keyed e (hmem e he), fun e he => h.separated e (hmem e he),
    fun e he => h.plain e (hmem e he)⟩

end Directory

/-!
## One request
-/

section Attempts

variable {κ σ : Type} [DecidableEq κ] {sv : Services κ σ} {failing : List Site} {s : Store κ σ}
  {entries : List (Installed κ σ)}

/-!
### Outcomes
-/

theorem getProvider_plain {config : Config κ}
    (h : sv.render config.authentication = config.authentication)
    (tenantId providerId type : String) :
    getProvider sv failing tenantId providerId type config s =
      (sv.known type && sv.accepts type config.authentication, config, s) := by
  unfold getProvider
  cases sv.known type with
  | false => rfl
  | true =>
      rw [if_pos rfl]
      exact if_pos h

/-- An installation without a template ends in one of three ways. -/
theorem installProvider_cases {newId : String} {r : InstallRequest κ}
    (hplain : sv.render r.providerConfig = r.providerConfig) (hcommit : .commit ∉ failing)
    (hdelete : .deleteSecret ∉ failing) :
    (exists e, installProvider sv failing newId r s = (.error e, s)) ∨
      installProvider sv failing newId r s = (.error (.http 409),
        { s with
          secrets := Dict.erase (secretName r.tenantId r.providerType newId)
            (Dict.set (secretName r.tenantId r.providerType newId)
              ⟨r.providerConfig, r.providerName⟩ s.secrets) }) ∨
      (s.providers.any (hasName r.tenantId r.providerName) = false ∧
        exists answer, installProvider sv failing newId r s = (.ok answer,
          { providers := s.providers ++ [r.row sv newId (r.scopes sv)]
            secrets := Dict.set (secretName r.tenantId r.providerType newId)
              ⟨r.providerConfig, r.providerName⟩ s.secrets })) := by
  unfold installProvider
  rw [getProvider_plain hplain]
  cases sv.known r.providerType && sv.accepts r.providerType r.providerConfig with
  | false => exact Or.inl ⟨_, rfl⟩
  | true =>
      have hscopes : forall scopes, (if r.validateScopes then
            validatedScopes sv r.providerType r.providerConfig else some sv.noScopes) =
          some scopes -> r.scopes sv = scopes := by
        intro scopes h
        unfold InstallRequest.scopes
        cases hvalidate : r.validateScopes with
        | true =>
            rw [hvalidate, if_pos rfl] at h
            rw [if_pos rfl, h]
            rfl
        | false =>
            rw [hvalidate] at h
            exact Option.some.inj h
      dsimp only
      split
      · exact Or.inl ⟨_, rfl⟩
      · rename_i scopes heq
        split
        · exact Or.inl ⟨_, rfl⟩
        · rw [hscopes scopes heq]
          split
          · exact Or.inr (Or.inl rfl)
          · rename_i hfree
            exact Or.inr (Or.inr ⟨Bool.eq_false_iff.mpr hfree, _, rfl⟩)

theorem updateProvider_cases {r : UpdateRequest κ}
    (hplain : sv.render r.providerInfo = r.providerInfo) (hcommit : .commit ∉ failing) :
    (exists e, updateProvider sv failing r s = (.error e, s)) ∨
      exists row, s.providers.find? (isRow r.tenantId r.providerId) = some row ∧
        exists scopes, sv.validateScopes row.type r.providerInfo = some scopes ∧
          updateProvider sv failing r s = (.ok (.updated ⟨r.providerInfo, row.name⟩ scopes),
            { providers := s.providers.map fun other =>
                if isRow r.tenantId r.providerId other then r.updated scopes other else other
              secrets := Dict.set row.configurationKey ⟨r.providerInfo, row.name⟩ s.secrets }) := by
  unfold updateProvider
  split
  · exact Or.inl ⟨_, rfl⟩
  · rename_i row hrow
    split
    · exact Or.inl ⟨_, rfl⟩
    · rw [getProvider_plain hplain]
      cases sv.known row.type && sv.accepts row.type r.providerInfo with
      | false => exact Or.inl ⟨_, rfl⟩
      | true =>
          dsimp only
          split
          · exact Or.inl ⟨_, rfl⟩
          · rename_i scopes hscopes
            split
            · exact Or.inl ⟨_, rfl⟩
            · exact Or.inr ⟨row, hrow, scopes, hscopes, rfl⟩

theorem deleteProvider_cases {r : DeleteRequest} (hcommit : .commit ∉ failing)
    (hdelete : .deleteSecret ∉ failing)
    (hplain : forall key config, s.secrets.lookup key = some config ->
      sv.render config.authentication = config.authentication) :
    (exists e, deleteProvider sv failing r s = (.error e, s)) ∨
      exists row, s.providers.find? (isRow r.tenantId r.providerId) = some row ∧
        deleteProvider sv failing r s = (.ok .deleted,
          { providers := s.providers.filter fun other => !isRow r.tenantId r.providerId other
            secrets := Dict.erase row.configurationKey s.secrets }) := by
  unfold deleteProvider
  split
  · exact Or.inl ⟨_, rfl⟩
  · rename_i row hrow
    split
    · exact Or.inl ⟨_, rfl⟩
    · split
      · exact Or.inl ⟨_, rfl⟩
      · rename_i config hread
        have hconfig : s.secrets.lookup row.configurationKey = some config := by
          split at hread
          · cases hread
          · exact hread
        dsimp only
        rw [getProvider_plain (hplain _ config hconfig)]
        exact Or.inr ⟨row, hrow, rfl⟩

theorem validateProviderScopes_cases [DecidableEq σ] {r : ValidateRequest}
    (hcommit : .commit ∉ failing)
    (hplain : forall key config, s.secrets.lookup key = some config ->
      sv.render config.authentication = config.authentication) :
    (exists e, validateProviderScopes sv failing r s = (.error e, s)) ∨
      exists row, s.providers.find? (isRow r.tenantId r.providerId) = some row ∧
        exists config, s.secrets.lookup row.configurationKey = some config ∧
          exists scopes, sv.validateScopes row.type config.authentication = some scopes ∧
            (validateProviderScopes sv failing r s = (.ok (.validated scopes), s) ∧
                scopes = row.validatedScopes ∨
              validateProviderScopes sv failing r s = (.ok (.validated scopes),
                { s with
                  providers := s.providers.map fun other =>
                    if isRow r.tenantId r.providerId other then other.revalidated scopes
                    else other })) := by
  unfold validateProviderScopes
  split
  · exact Or.inl ⟨_, rfl⟩
  · rename_i row hrow
    split
    · exact Or.inl ⟨_, rfl⟩
    · rename_i config hread
      have hconfig : s.secrets.lookup row.configurationKey = some config := by
        split at hread
        · cases hread
        · exact hread
      rw [getProvider_plain (hplain _ config hconfig)]
      cases sv.known row.type && sv.accepts row.type config.authentication with
      | false => exact Or.inl ⟨_, rfl⟩
      | true =>
          dsimp only
          split
          · exact Or.inl ⟨_, rfl⟩
          · rename_i scopes hscopes
            refine Or.inr ⟨row, hrow, config, hconfig, scopes, hscopes, ?_⟩
            split
            · rename_i hsame
              exact Or.inl ⟨rfl, hsame⟩
            · exact Or.inr rfl

/-- The ids that an attempt brings. -/
def Attempt.newIds (attempt : Attempt κ) : List String :=
  match attempt.request with
  | .install newId _ => [newId]
  | _ => []

/-- The credentials that an attempt brings. -/
def Attempt.credentials (attempt : Attempt κ) : List κ :=
  match attempt.request with
  | .install _ r => [r.providerConfig]
  | .update r => [r.providerInfo]
  | _ => []

/-- Nothing is left to be rendered, ids have no underscores, and neither the commit nor the
deletion of a secret fails. -/
structure Attempt.Clean (sv : Services κ σ) (attempt : Attempt κ) : Prop where
  commit : .commit ∉ attempt.failing
  deleteSecret : .deleteSecret ∉ attempt.failing
  plain : forall given, given ∈ attempt.credentials -> sv.render given = given
  separated : forall id, id ∈ attempt.newIds -> '_' ∉ id.toList

variable [DecidableEq σ]

/-- The providers after an attempt: as they were where it is refused. -/
def granted (sv : Services κ σ) (s : Store κ σ) (entries : List (Installed κ σ))
    (attempt : Attempt κ) : List (Installed κ σ) :=
  match (attempt.run sv s).1 with
  | .ok _ => attempt.request.perform sv entries
  | .error _ => entries

theorem granted_of_error {attempt : Attempt κ} {e : Refusal} {s' : Store κ σ}
    (h : attempt.run sv s = (.error e, s')) : granted sv s entries attempt = entries := by
  unfold granted
  rw [h]

theorem granted_of_ok {attempt : Attempt κ} {answer : Answer κ σ} {s' : Store κ σ}
    (h : attempt.run sv s = (.ok answer, s')) :
    granted sv s entries attempt = attempt.request.perform sv entries := by
  unfold granted
  rw [h]

/-- An attempt does all of what it is for, or nothing. -/
theorem attempt_atomic (h : Sound sv entries) (hs : Represents entries s) {attempt : Attempt κ}
    (hclean : attempt.Clean sv)
    (hfresh : forall id, id ∈ attempt.newIds -> id ∉ entries.map fun e => e.provider.id) :
    Sound sv (granted sv s entries attempt) ∧
      Represents (granted sv s entries attempt) (attempt.run sv s).2 := by
  have hrefused : forall e, attempt.run sv s = (.error e, s) ->
      Sound sv (granted sv s entries attempt) ∧
        Represents (granted sv s entries attempt) (attempt.run sv s).2 := by
    intro e hrun
    rw [granted_of_error hrun, hrun]
    exact ⟨h, hs⟩
  have hplain : forall key config, s.secrets.lookup key = some config ->
      sv.render config.authentication = config.authentication := by
    intro key config hlookup
    rcases (hs.lookup_iff h).mp hlookup with ⟨e, he, heq⟩
    rw [← (Prod.mk.inj heq).2]
    exact h.plain e he
  rcases attempt with ⟨request, failing⟩
  cases request with
  | install newId r =>
      have hid := hfresh newId List.mem_cons_self
      have hnew := hclean.separated newId List.mem_cons_self
      have hgiven := hclean.plain r.providerConfig List.mem_cons_self
      rcases installProvider_cases (s := s) hgiven hclean.commit hclean.deleteSecret with
        ⟨e, hrun⟩ | hrun | ⟨hfree, answer, hrun⟩
      · exact hrefused e hrun
      · have hconflict : Attempt.run sv ⟨.install newId r, failing⟩ s = (.error (.http 409), _) :=
          hrun
        rw [granted_of_error hconflict, hconflict]
        exact ⟨h, represents_refused h hs hnew hid r.tenantId r.providerType _⟩
      · have hok : Attempt.run sv ⟨.install newId r, failing⟩ s = (.ok answer, _) := hrun
        rw [granted_of_ok hok, hok]
        exact ⟨sound_install h hid hnew (hs.free_of_any hfree) hgiven,
          represents_install h hs hnew hid r⟩
  | update r =>
      have hgiven := hclean.plain r.providerInfo List.mem_cons_self
      rcases updateProvider_cases (s := s) hgiven hclean.commit with
        ⟨e, hrun⟩ | ⟨row, hrow, scopes, hscopes, hrun⟩
      · exact hrefused e hrun
      · have hok : Attempt.run sv ⟨.update r, failing⟩ s = (.ok (.updated _ scopes), _) := hrun
        rw [granted_of_ok hok, hok]
        exact ⟨sound_update h hgiven, represents_update h hs hrow hscopes⟩
  | delete r =>
      rcases deleteProvider_cases (r := r) hclean.commit hclean.deleteSecret hplain with
        ⟨e, hrun⟩ | ⟨row, hrow, hrun⟩
      · exact hrefused e hrun
      · have hok : Attempt.run sv ⟨.delete r, failing⟩ s = (.ok .deleted, _) := hrun
        rw [granted_of_ok hok, hok]
        exact ⟨sound_delete h r, represents_delete h hs hrow⟩
  | validate r =>
      rcases validateProviderScopes_cases (r := r) hclean.commit hplain with
        ⟨e, hrun⟩ | ⟨row, hrow, config, hconfig, scopes, hscopes, hrun⟩
      · exact hrefused e hrun
      · have hrepresents := represents_validate h hs hrow hconfig hscopes
        rcases hrun with ⟨hrun, hsame⟩ | hrun
        · have hok : Attempt.run sv ⟨.validate r, failing⟩ s = (.ok (.validated scopes), s) := hrun
          rw [granted_of_ok hok, hok]
          rw [hsame, hs.revalidated_eq h hrow] at hrepresents
          exact ⟨sound_validate h r, hrepresents⟩
        · have hok : Attempt.run sv ⟨.validate r, failing⟩ s = (.ok (.validated scopes), _) := hrun
          rw [granted_of_ok hok, hok]
          exact ⟨sound_validate h r, hrepresents⟩

/-!
### Runs
-/

/-- The providers after attempts in a row. -/
def afterGranted (sv : Services κ σ) : Store κ σ -> List (Installed κ σ) -> List (Attempt κ) ->
    List (Installed κ σ)
  | _, entries, [] => entries
  | s, entries, attempt :: rest =>
      afterGranted sv (attempt.run sv s).2 (granted sv s entries attempt) rest

/-- The ids after an attempt are among those before and the one that it brings. -/
theorem granted_ids (sv : Services κ σ) (s : Store κ σ) (entries : List (Installed κ σ))
    (attempt : Attempt κ) :
    ((granted sv s entries attempt).map fun e => e.provider.id).Sublist
      ((entries.map fun e => e.provider.id) ++ attempt.newIds) := by
  unfold granted
  split
  · rcases attempt with ⟨request, failing⟩
    cases request with
    | install newId r =>
        unfold Request.perform
        rw [List.map_append]
        exact List.Sublist.refl _
    | update r =>
        show (((Request.update r).perform sv entries).map fun e => e.provider.id).Sublist _
        rw [ids_update]
        exact List.sublist_append_left _ _
    | validate r =>
        show (((Request.validate r).perform sv entries).map fun e => e.provider.id).Sublist _
        rw [ids_validate]
        exact List.sublist_append_left _ _
    | delete r => exact (List.filter_sublist.map _).trans (List.sublist_append_left _ _)
  · exact List.sublist_append_left _ _

/-- In every run of installations, updates and deletions, of any tenants, in which requests to
the stores fail, save for commits and deletions of secrets, and no credentials have templates: the
rows and the secrets remain those of the providers, each attempt having done all of its work or
none. -/
theorem providers_keep_credentials (sv : Services κ σ) {s : Store κ σ}
    {entries : List (Installed κ σ)} (h : Sound sv entries) (hs : Represents entries s)
    (attempts : List (Attempt κ))
    (hclean : forall attempt, attempt ∈ attempts -> attempt.Clean sv)
    (hfresh : ((entries.map fun e => e.provider.id) ++ attempts.flatMap Attempt.newIds).Nodup) :
    Sound sv (afterGranted sv s entries attempts) ∧
      Represents (afterGranted sv s entries attempts) (afterAttempts sv s attempts) := by
  induction attempts generalizing s entries with
  | nil => exact ⟨h, hs⟩
  | cons attempt rest ih =>
      rcases List.forall_mem_cons.mp hclean with ⟨hfirst, hrest⟩
      rw [List.flatMap_cons, ← List.append_assoc] at hfresh
      have hnew : forall id, id ∈ attempt.newIds -> id ∉ entries.map fun e => e.provider.id := by
        intro id hid hmem
        exact List.disjoint_of_nodup_append hfresh.of_append_left hmem hid
      rcases attempt_atomic h hs hfirst hnew with ⟨hsound, hrepresents⟩
      apply ih hsound hrepresents hrest
      exact hfresh.sublist ((granted_ids sv s entries attempt).append (List.Sublist.refl _))

end Attempts

/-- Texts for credentials, of which the template is rendered, and numbers for scopes. -/
def textServices : Services String Nat where
  render text := if text = "{{ env.TOKEN }}" then "token" else text
  known type := type == "grafana"
  accepts _ text := text != ""
  validateScopes _ text := if text = "expired" then none else some text.length
  mandatoryValidated _ scopes := scopes != 0
  noScopes := 0
  isConsumer _ := false

def installGrafana (tenantId newId text : String) (failing : List Site) : Attempt String :=
  ⟨.install newId ⟨tenantId, "ann", "grafana", "prod", "grafana", text, false, true, true⟩, failing⟩

/-- Among others: a secret that is not written, a name that is taken, and one secret not read. -/
def plainAttempts : List (Attempt String) :=
  [installGrafana "acme" "a1" "first" [],
    installGrafana "globex" "b1" "first" [.writeSecret],
    installGrafana "acme" "a2" "second" [],
    ⟨.update ⟨"acme", "a1", "second", "ann", false, false⟩, []⟩,
    ⟨.validate ⟨"acme", "a1"⟩, []⟩,
    ⟨.delete ⟨"acme", "a1", false⟩, [.readSecret]⟩]

theorem plainAttempts_keep_credentials :
    Sound textServices (afterGranted textServices ⟨[], []⟩ [] plainAttempts) ∧
      Represents (afterGranted textServices ⟨[], []⟩ [] plainAttempts)
        (afterAttempts textServices ⟨[], []⟩ plainAttempts) := by
  have hsound : Sound textServices ([] : List (Installed String Nat)) :=
    ⟨List.nodup_nil, List.nodup_nil, by simp, by simp, by simp⟩
  have hs : Represents ([] : List (Installed String Nat)) ⟨[], []⟩ := ⟨rfl, fun _ => rfl⟩
  apply providers_keep_credentials textServices hsound hs plainAttempts
  · intro attempt hattempt
    simp only [plainAttempts, List.mem_cons, List.not_mem_nil, or_false] at hattempt
    rcases hattempt with h | h | h | h | h | h
    all_goals
      rw [h]
      exact ⟨by decide, by decide, by decide, by decide⟩
  · decide

/-!
## Tenants
-/

section Tenants

variable {κ σ : Type}

def ofTenant (tenantId : String) (row : Provider σ) : Bool := row.tenantId == tenantId

/-- What the requests of a tenant can tell of the stores: its rows, and its secrets. -/
structure SameView (tenantId : String) (s s' : Store κ σ) : Prop where
  providers : s.providers.filter (ofTenant tenantId) = s'.providers.filter (ofTenant tenantId)
  secrets : forall type id, s.secrets.lookup (secretName tenantId type id) =
    s'.secrets.lookup (secretName tenantId type id)

/-- The rows refer to secrets of their own tenants. -/
def Keyed (s : Store κ σ) : Prop :=
  forall row, row ∈ s.providers ->
    row.configurationKey = secretName row.tenantId row.type row.id

theorem Keyed.of_find {s : Store κ σ} (hs : Keyed s) {tenantId id : String} {row : Provider σ}
    (hrow : s.providers.find? (isRow tenantId id) = some row) :
    row.configurationKey = secretName tenantId row.type row.id := by
  rw [hs row (List.mem_of_find?_eq_some hrow), (isRow_iff.mp (List.find?_some hrow)).1]

/-- What requests of a tenant write: its own secrets, and its own rows, which keep what identifies
them. -/
inductive Writes (tenantId : String) : Store κ σ -> Store κ σ -> Prop where
  | nothing {s} : Writes tenantId s s
  | secret {s s'} (type id : String) (config : Config κ) (h : Writes tenantId s s') :
      Writes tenantId s
        { s' with secrets := Dict.set (secretName tenantId type id) config s'.secrets }
  | erased {s s'} (type id : String) (h : Writes tenantId s s') :
      Writes tenantId s { s' with secrets := Dict.erase (secretName tenantId type id) s'.secrets }
  | added {s s'} (row : Provider σ) (hrow : row.tenantId = tenantId)
      (hkey : row.configurationKey = secretName row.tenantId row.type row.id)
      (h : Writes tenantId s s') :
      Writes tenantId s { s' with providers := s'.providers ++ [row] }
  | changed {s s'} (id : String) (change : Provider σ -> Provider σ)
      (hchange : forall row, (change row).identity = row.identity) (h : Writes tenantId s s') :
      Writes tenantId s
        { s' with
          providers := s'.providers.map fun row =>
            if isRow tenantId id row then change row else row }
  | dropped {s s'} (id : String) (h : Writes tenantId s s') :
      Writes tenantId s
        { s' with providers := s'.providers.filter fun row => !isRow tenantId id row }

theorem isRow_of_other {tenantId tenantId' id : String} (hne : tenantId ≠ tenantId')
    {row : Provider σ} (h : ofTenant tenantId' row = true) : isRow tenantId id row = false := by
  apply Bool.eq_false_iff.mpr
  intro hrow
  exact hne ((isRow_iff.mp hrow).1.symm.trans (beq_iff_eq.mp h))

theorem ofTenant_comp_changed {change : Provider σ -> Provider σ}
    (hchange : forall row, (change row).identity = row.identity)
    (tenantId' tenantId id : String) :
    (ofTenant tenantId' ∘ fun row => if isRow tenantId id row then change row else row) =
      ofTenant tenantId' := by
  funext row
  rw [Function.comp_apply]
  unfold ofTenant
  split
  · have hsame : (change row).tenantId = row.tenantId :=
      congrArg (fun key => key.2.1) (hchange row)
    rw [hsame]
  · rfl

theorem Writes.keyed {tenantId : String} {s s' : Store κ σ} (h : Writes tenantId s s')
    (hs : Keyed s) : Keyed s' := by
  induction h with
  | nothing => exact hs
  | secret type id config _ ih => exact ih
  | erased type id _ ih => exact ih
  | added row _ hkey _ ih =>
      intro other hother
      rcases List.mem_append.mp hother with hmem | hlast
      · exact ih other hmem
      · rw [List.mem_singleton.mp hlast]
        exact hkey
  | changed id change hchange _ ih =>
      intro other hother
      rcases List.mem_map.mp hother with ⟨row, hrow, heq⟩
      have hsame : other.identity = row.identity := by
        rw [← heq]
        split
        · exact hchange row
        · rfl
      unfold Provider.identity at hsame
      simp only [Prod.mk.injEq] at hsame
      rcases hsame with ⟨hid, htenant, _, htype, hkey⟩
      rw [hkey, htenant, htype, hid]
      exact ih row hrow
  | dropped id _ ih => exact fun other hother => ih other (List.mem_of_mem_filter hother)

/-- What a tenant writes, another cannot tell. -/
theorem Writes.sameView {tenantId tenantId' : String} (hne : tenantId ≠ tenantId')
    (htenant : '_' ∉ tenantId.toList) (htenant' : '_' ∉ tenantId'.toList) {s s' s₀ : Store κ σ}
    (h : Writes tenantId s s') (hs : SameView tenantId' s s₀) : SameView tenantId' s' s₀ := by
  have hkeys : forall type id type' id',
      secretName tenantId type id ≠ secretName tenantId' type' id' :=
    fun _ _ _ _ hkey => hne (tenant_of_secretName htenant htenant' hkey)
  induction h with
  | nothing => exact hs
  | secret type id config _ ih =>
      refine ⟨ih.providers, fun type' id' => ?_⟩
      exact (Dict.lookup_set_ne (hkeys type id type' id') config _).trans (ih.secrets type' id')
  | erased type id _ ih =>
      refine ⟨ih.providers, fun type' id' => ?_⟩
      exact (Dict.lookup_erase_ne (hkeys type id type' id') _).trans (ih.secrets type' id')
  | added row hrow _ _ ih =>
      refine ⟨?_, ih.secrets⟩
      rw [← ih.providers, List.filter_append, List.filter_cons_of_neg, List.filter_nil,
        List.append_nil]
      intro hof
      exact hne (hrow.symm.trans (beq_iff_eq.mp hof))
  | changed id change hchange _ ih =>
      refine ⟨?_, ih.secrets⟩
      rw [← ih.providers, List.filter_map, ofTenant_comp_changed hchange]
      apply Eq.trans (List.map_congr_left ?_) (List.map_id _)
      intro row hrow
      rw [isRow_of_other hne (List.mem_filter.mp hrow).2]
      rfl
  | dropped id _ ih =>
      refine ⟨?_, ih.secrets⟩
      rw [← ih.providers, List.filter_filter]
      apply List.filter_congr
      intro row _
      cases hof : ofTenant tenantId' row with
      | false => rfl
      | true =>
          rw [isRow_of_other hne hof]
          rfl

theorem SameView.set {tenantId : String} {s s' : Store κ σ} (h : SameView tenantId s s')
    (type id : String) (config : Config κ) :
    SameView tenantId
      { s with secrets := Dict.set (secretName tenantId type id) config s.secrets }
      { s' with secrets := Dict.set (secretName tenantId type id) config s'.secrets } := by
  refine ⟨h.providers, fun type' id' => ?_⟩
  show (Dict.set _ _ s.secrets).lookup _ = (Dict.set _ _ s'.secrets).lookup _
  rw [Dict.lookup_set, Dict.lookup_set, h.secrets]

theorem SameView.erase {tenantId : String} {s s' : Store κ σ} (h : SameView tenantId s s')
    (type id : String) :
    SameView tenantId
      { s with secrets := Dict.erase (secretName tenantId type id) s.secrets }
      { s' with secrets := Dict.erase (secretName tenantId type id) s'.secrets } := by
  refine ⟨h.providers, fun type' id' => ?_⟩
  show (Dict.erase _ s.secrets).lookup _ = (Dict.erase _ s'.secrets).lookup _
  rw [Dict.lookup_erase, Dict.lookup_erase, h.secrets]

theorem SameView.append {tenantId : String} {s s' : Store κ σ} (h : SameView tenantId s s')
    (row : Provider σ) :
    SameView tenantId { s with providers := s.providers ++ [row] }
      { s' with providers := s'.providers ++ [row] } := by
  refine ⟨?_, h.secrets⟩
  rw [List.filter_append, List.filter_append, h.providers]

theorem SameView.change {tenantId : String} {s s' : Store κ σ} (h : SameView tenantId s s')
    (id : String) (change : Provider σ -> Provider σ)
    (hchange : forall row, (change row).identity = row.identity) :
    SameView tenantId
      { s with
        providers := s.providers.map fun row =>
          if isRow tenantId id row then change row else row }
      { s' with
        providers := s'.providers.map fun row =>
          if isRow tenantId id row then change row else row } := by
  refine ⟨?_, h.secrets⟩
  rw [List.filter_map, List.filter_map, ofTenant_comp_changed hchange, h.providers]

theorem SameView.drop {tenantId : String} {s s' : Store κ σ} (h : SameView tenantId s s')
    (id : String) :
    SameView tenantId
      { s with providers := s.providers.filter fun row => !isRow tenantId id row }
      { s' with providers := s'.providers.filter fun row => !isRow tenantId id row } := by
  refine ⟨?_, h.secrets⟩
  rw [List.filter_comm, List.filter_comm _ _ s'.providers, h.providers]

theorem SameView.find_row {tenantId : String} {s s' : Store κ σ} (h : SameView tenantId s s')
    (id : String) :
    s'.providers.find? (isRow tenantId id) = s.providers.find? (isRow tenantId id) := by
  have hview : forall rows : List (Provider σ),
      rows.find? (isRow tenantId id) =
        (rows.filter (ofTenant tenantId)).find? fun row => row.id == id := by
    intro rows
    rw [List.find?_filter]
    simp only [Bool.decide_and, Bool.decide_eq_true]
    rfl
  rw [hview, hview, h.providers]

theorem SameView.any_name {tenantId : String} {s s' : Store κ σ} (h : SameView tenantId s s')
    (name : String) :
    s'.providers.any (hasName tenantId name) = s.providers.any (hasName tenantId name) := by
  have hview : forall rows : List (Provider σ),
      rows.any (hasName tenantId name) =
        (rows.filter (ofTenant tenantId)).any fun row => row.name == name := by
    intro rows
    rw [List.any_filter]
    rfl
  rw [hview, hview, h.providers]

variable [DecidableEq κ] {sv : Services κ σ} {failing : List Site}

theorem getProvider_writes (sv : Services κ σ) (failing : List Site)
    (tenantId providerId type : String) (config : Config κ)
    {s s' : Store κ σ} (h : Writes tenantId s s') :
    Writes tenantId s (getProvider sv failing tenantId providerId type config s').2.2 := by
  unfold getProvider
  split
  · dsimp only
    split
    · exact h
    · split
      · exact h
      · exact h.secret type providerId _
  · exact h

/-- A provider is made of its configuration alone. -/
theorem SameView.getProvider {tenantId : String} {s s' : Store κ σ} (h : SameView tenantId s s')
    (sv : Services κ σ) (failing : List Site) (providerId type : String) (config : Config κ) :
    exists found rendered t t',
      getProvider sv failing tenantId providerId type config s = (found, rendered, t) ∧
        getProvider sv failing tenantId providerId type config s' = (found, rendered, t') ∧
        SameView tenantId t t' := by
  unfold Providers.getProvider
  split
  · dsimp only
    split
    · exact ⟨_, _, _, _, rfl, rfl, h⟩
    · split
      · exact ⟨_, _, _, _, rfl, rfl, h⟩
      · exact ⟨_, _, _, _, rfl, rfl, h.set type providerId _⟩
  · exact ⟨_, _, _, _, rfl, rfl, h⟩

theorem installProvider_writes (newId : String) (r : InstallRequest κ) (s : Store κ σ) :
    Writes r.tenantId s (installProvider sv failing newId r s).2 := by
  have hprovider : Writes r.tenantId s _ := getProvider_writes sv failing r.tenantId r.providerId
    r.providerType ⟨r.providerConfig, r.providerName⟩ Writes.nothing
  unfold installProvider
  split
  · rename_i heq
    rw [heq] at hprovider
    exact hprovider
  · rename_i config s₁ heq
    rw [heq] at hprovider
    split
    · exact hprovider
    · split
      · exact hprovider
      · have hsecret := hprovider.secret r.providerType newId config
        dsimp only
        split
        · exact hsecret
        · split
          · split
            · exact hsecret
            · exact hsecret.erased r.providerType newId
          · exact hsecret.added (r.row sv newId _) rfl rfl

theorem updateProvider_writes {r : UpdateRequest κ} {s : Store κ σ} (hs : Keyed s) :
    Writes r.tenantId s (updateProvider sv failing r s).2 := by
  unfold updateProvider
  split
  · exact Writes.nothing
  · rename_i row hrow
    have hkey := hs.of_find hrow
    have hprovider : Writes r.tenantId s _ := getProvider_writes sv failing r.tenantId
      r.providerId row.type ⟨r.providerInfo, row.name⟩ Writes.nothing
    split
    · exact Writes.nothing
    · split
      · rename_i heq
        rw [heq] at hprovider
        exact hprovider
      · rename_i config s₁ heq
        rw [heq] at hprovider
        split
        · exact hprovider
        · rename_i scopes _
          split
          · exact hprovider
          · rw [hkey]
            have hsecret := hprovider.secret row.type row.id config
            dsimp only
            split
            · exact hsecret
            · exact hsecret.changed r.providerId (r.updated scopes) fun _ => rfl

theorem deleteProvider_writes {r : DeleteRequest} {s : Store κ σ} (hs : Keyed s) :
    Writes r.tenantId s (deleteProvider sv failing r s).2 := by
  unfold deleteProvider
  split
  · exact Writes.nothing
  · rename_i row hrow
    have hkey := hs.of_find hrow
    split
    · exact Writes.nothing
    · split
      · exact Writes.nothing
      · rename_i config _
        have herased : Writes r.tenantId s (if .deleteSecret ∈ failing then s
            else { s with secrets := Dict.erase row.configurationKey s.secrets }) := by
          split
          · exact Writes.nothing
          · rw [hkey]
            exact Writes.nothing.erased row.type row.id
        have hprovider := getProvider_writes sv failing r.tenantId row.id
          row.type config herased
        dsimp only
        split
        · exact hprovider
        · exact hprovider.dropped r.providerId

theorem validateProviderScopes_writes [DecidableEq σ] (r : ValidateRequest) (s : Store κ σ) :
    Writes r.tenantId s (validateProviderScopes sv failing r s).2 := by
  unfold validateProviderScopes
  split
  · exact Writes.nothing
  · rename_i row hrow
    split
    · exact Writes.nothing
    · rename_i config _
      have hprovider : Writes r.tenantId s _ := getProvider_writes sv failing r.tenantId
        r.providerId row.type config Writes.nothing
      split
      · rename_i heq
        rw [heq] at hprovider
        exact hprovider
      · rename_i heq
        rw [heq] at hprovider
        split
        · exact hprovider
        · rename_i scopes _
          split
          · exact hprovider
          · split
            · exact hprovider
            · exact hprovider.changed r.providerId (Provider.revalidated scopes) fun _ => rfl

/-- Stores that are the same to a tenant answer it alike, and remain so. -/
def Alike (tenantId : String) (run : Store κ σ -> Except Refusal (Answer κ σ) × Store κ σ)
    (s s' : Store κ σ) : Prop :=
  (run s).1 = (run s').1 ∧ SameView tenantId (run s).2 (run s').2

theorem SameView.installProvider {r : InstallRequest κ} {s s' : Store κ σ}
    (h : SameView r.tenantId s s') (newId : String) :
    Alike r.tenantId (installProvider sv failing newId r) s s' := by
  unfold Alike Providers.installProvider
  rcases h.getProvider sv failing r.providerId r.providerType ⟨r.providerConfig, r.providerName⟩
    with ⟨found, config, t, t', hfirst, hsecond, hview⟩
  rw [hfirst, hsecond]
  cases found with
  | false => exact ⟨rfl, hview⟩
  | true =>
      dsimp only
      split
      · exact ⟨rfl, hview⟩
      · split
        · exact ⟨rfl, hview⟩
        · have hsecret := hview.set r.providerType newId config
          split
          · exact ⟨rfl, hsecret⟩
          · rw [hview.any_name]
            split
            · split
              · exact ⟨rfl, hsecret⟩
              · exact ⟨rfl, hsecret.erase r.providerType newId⟩
            · exact ⟨rfl, hsecret.append _⟩

theorem SameView.updateProvider {r : UpdateRequest κ} {s s' : Store κ σ}
    (h : SameView r.tenantId s s') (hs : Keyed s) :
    Alike r.tenantId (updateProvider sv failing r) s s' := by
  unfold Alike Providers.updateProvider
  rw [h.find_row]
  cases hrow : s.providers.find? (isRow r.tenantId r.providerId) with
  | none => exact ⟨rfl, h⟩
  | some row =>
      have hkey := hs.of_find hrow
      dsimp only
      split
      · exact ⟨rfl, h⟩
      · rcases h.getProvider sv failing r.providerId row.type ⟨r.providerInfo, row.name⟩
          with ⟨found, config, t, t', hfirst, hsecond, hview⟩
        rw [hfirst, hsecond]
        cases found with
        | false => exact ⟨rfl, hview⟩
        | true =>
            dsimp only
            split
            · exact ⟨rfl, hview⟩
            · rename_i scopes _
              split
              · exact ⟨rfl, hview⟩
              · rw [hkey]
                have hsecret := hview.set row.type row.id config
                split
                · exact ⟨rfl, hsecret⟩
                · exact ⟨rfl, hsecret.change r.providerId (r.updated scopes) fun _ => rfl⟩

theorem SameView.deleteProvider {r : DeleteRequest} {s s' : Store κ σ}
    (h : SameView r.tenantId s s') (hs : Keyed s) :
    Alike r.tenantId (deleteProvider sv failing r) s s' := by
  unfold Alike Providers.deleteProvider
  rw [h.find_row]
  cases hrow : s.providers.find? (isRow r.tenantId r.providerId) with
  | none => exact ⟨rfl, h⟩
  | some row =>
      have hkey := hs.of_find hrow
      dsimp only
      split
      · exact ⟨rfl, h⟩
      · rw [hkey, h.secrets]
        split
        · exact ⟨rfl, h⟩
        · rename_i config _
          have herased : SameView r.tenantId
              (if .deleteSecret ∈ failing then s
                else
                  { s with
                    secrets := Dict.erase (secretName r.tenantId row.type row.id) s.secrets })
              (if .deleteSecret ∈ failing then s'
                else
                  { s' with
                    secrets := Dict.erase (secretName r.tenantId row.type row.id) s'.secrets }) := by
            split
            · exact h
            · exact h.erase row.type row.id
          rcases herased.getProvider sv failing row.id row.type config
            with ⟨found, rendered, t, t', hfirst, hsecond, hview⟩
          rw [hfirst, hsecond]
          split
          · exact ⟨rfl, hview⟩
          · exact ⟨rfl, hview.drop r.providerId⟩

theorem SameView.validateProviderScopes [DecidableEq σ] {r : ValidateRequest} {s s' : Store κ σ}
    (h : SameView r.tenantId s s') (hs : Keyed s) :
    Alike r.tenantId (validateProviderScopes sv failing r) s s' := by
  unfold Alike Providers.validateProviderScopes
  rw [h.find_row]
  cases hrow : s.providers.find? (isRow r.tenantId r.providerId) with
  | none => exact ⟨rfl, h⟩
  | some row =>
      have hkey := hs.of_find hrow
      dsimp only
      rw [hkey, h.secrets]
      split
      · exact ⟨rfl, h⟩
      · rename_i config _
        rcases h.getProvider sv failing r.providerId row.type config
          with ⟨found, rendered, t, t', hfirst, hsecond, hview⟩
        rw [hfirst, hsecond]
        cases found with
        | false => exact ⟨rfl, hview⟩
        | true =>
            dsimp only
            split
            · exact ⟨rfl, hview⟩
            · rename_i scopes _
              split
              · exact ⟨rfl, hview⟩
              · split
                · exact ⟨rfl, hview⟩
                · exact ⟨rfl, hview.change r.providerId (Provider.revalidated scopes) fun _ => rfl⟩

variable [DecidableEq σ]

theorem run_writes (sv : Services κ σ) (attempt : Attempt κ) {s : Store κ σ} (hs : Keyed s) :
    Writes attempt.request.tenantId s (attempt.run sv s).2 := by
  rcases attempt with ⟨request, failing⟩
  cases request with
  | install newId r => exact installProvider_writes newId r s
  | update r => exact updateProvider_writes hs
  | delete r => exact deleteProvider_writes hs
  | validate r => exact validateProviderScopes_writes r s

theorem SameView.run (sv : Services κ σ) (attempt : Attempt κ) {s s' : Store κ σ}
    (h : SameView attempt.request.tenantId s s') (hs : Keyed s) :
    Alike attempt.request.tenantId (attempt.run sv) s s' := by
  rcases attempt with ⟨request, failing⟩
  cases request with
  | install newId r => exact SameView.installProvider h newId
  | update r => exact SameView.updateProvider h hs
  | delete r => exact SameView.deleteProvider h hs
  | validate r => exact SameView.validateProviderScopes h hs

def Attempt.isOf (tenantId : String) (attempt : Attempt κ) : Bool :=
  attempt.request.tenantId == tenantId

/-- What a tenant is answered in a run of attempts of any tenants. -/
def answersTo (sv : Services κ σ) (tenantId : String) (s : Store κ σ)
    (attempts : List (Attempt κ)) : List (Except Refusal (Answer κ σ)) :=
  (Run.answers (fun s attempt => Attempt.run sv attempt s) (Attempt.isOf tenantId) s attempts).1

theorem unwinding (sv : Services κ σ) {tenantId : String} (htenant : '_' ∉ tenantId.toList) :
    Run.Unwinding (fun (s : Store κ σ) attempt => Attempt.run sv attempt s)
      (Attempt.isOf tenantId) (fun attempt => '_' ∉ attempt.request.tenantId.toList) Keyed
      (SameView tenantId) where
  keeps _ attempt hs _ := (run_writes sv attempt hs).keyed hs
  others s s' attempt hs hother hforeign hsame := by
    have hne : attempt.request.tenantId ≠ tenantId := by
      intro heq
      exact Bool.eq_false_iff.mp hforeign (beq_iff_eq.mpr heq)
    exact (run_writes sv attempt hs).sameView hne hother htenant hsame
  owns s s' attempt hs _ hown hsame := by
    have heq : attempt.request.tenantId = tenantId := beq_iff_eq.mp hown
    rw [← heq] at hsame ⊢
    exact hsame.run sv attempt hs

/-- In every run of installations, updates, deletions and validations, whatever fails, is rendered
or is refused in it, each tenant is answered as if the others had made no request, and is left with
the rows and secrets it would have then. -/
theorem tenant_served_alone (sv : Services κ σ) {s : Store κ σ} (hs : Keyed s) {tenantId : String}
    (htenant : '_' ∉ tenantId.toList) {attempts : List (Attempt κ)}
    (hattempts : forall attempt, attempt ∈ attempts ->
      '_' ∉ attempt.request.tenantId.toList) :
    answersTo sv tenantId s attempts =
        answersTo sv tenantId s (attempts.filter (Attempt.isOf tenantId)) ∧
      SameView tenantId (afterAttempts sv s attempts)
        (afterAttempts sv s (attempts.filter (Attempt.isOf tenantId))) := by
  have halone := (unwinding sv htenant).alone hs hs ⟨rfl, fun _ _ => rfl⟩ hattempts
  rw [Run.answers_snd, Run.answers_snd] at halone
  exact halone

end Tenants

/-- The tenants use one name and one template, and requests to the stores fail. -/
def crossedAttempts : List (Attempt String) :=
  [installGrafana "acme" "a1" "{{ env.TOKEN }}" [],
    installGrafana "globex" "b1" "first" [],
    ⟨.delete ⟨"acme", "b1", true⟩, []⟩,
    ⟨.update ⟨"acme", "a1", "{{ env.TOKEN }}", "ann", false, false⟩, [.commit]⟩,
    installGrafana "globex" "b2" "second" [.deleteSecret],
    ⟨.delete ⟨"globex", "b1", false⟩, [.deleteSecret]⟩]

theorem globex_served_alone :
    answersTo textServices "globex" ⟨[], []⟩ crossedAttempts =
        answersTo textServices "globex" ⟨[], []⟩
          (crossedAttempts.filter (Attempt.isOf "globex")) ∧
      SameView "globex" (afterAttempts textServices ⟨[], []⟩ crossedAttempts)
        (afterAttempts textServices ⟨[], []⟩
          (crossedAttempts.filter (Attempt.isOf "globex"))) :=
  tenant_served_alone textServices (fun _ h => absurd h List.not_mem_nil) (by decide) (by decide)

end Providers
end KeepGateway
