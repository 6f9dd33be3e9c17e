import KeepGateway.Identity.OrganisationTenants
import KeepGateway.Lib.FirstMatch
import KeepGateway.Tenants.LastAdministrator

/-!
# Access to one's own organisation

When the groups of a caller give access to the tenants that they name, and in the role that
they name.
-/

namespace KeepGateway
namespace Identity

open FirstMatch Separated
open Tenants (Tenant Database present strongest)

/-- Roles are taken from groups, and the role claims differ and are free of the separator. -/
structure RoleClaims (config : KeycloakConfig) : Prop where
  fromGroups : config.rolesFromGroups = true
  distinct : [config.groupsClaimsAdmin, config.groupsClaimsNoc, config.groupsClaimsWebhook].Nodup
  plain : forall claim, claim ∈ [config.groupsClaimsAdmin, config.groupsClaimsNoc,
    config.groupsClaimsWebhook] -> occursIn config.groupsSeparator claim = false

theorem keycloakRoles_eq {config : KeycloakConfig} (h : RoleClaims config) :
    config.keycloakRoles = [(config.groupsClaimsAdmin, "admin"), (config.groupsClaimsNoc, "noc"),
      (config.groupsClaimsWebhook, "webhook")] := by
  have hnodup := h.distinct
  rw [List.nodup_cons, List.nodup_cons, List.mem_cons, not_or, List.mem_singleton,
    List.mem_singleton] at hnodup
  rcases hnodup with ⟨⟨hnoc, hwebhook⟩, hother, _⟩
  unfold KeycloakConfig.keycloakRoles Dict.update
  simp only [List.foldl_cons, List.foldl_nil, Dict.set, if_neg hnoc, if_neg hwebhook,
    if_neg hother]

theorem roles_nodup {config : KeycloakConfig} (h : RoleClaims config) :
    (config.keycloakRoles.map Prod.snd).Nodup := by
  rw [keycloakRoles_eq h]
  simp

theorem role_ne_empty {config : KeycloakConfig} (h : RoleClaims config)
    {entry : String × String} (hmem : entry ∈ config.keycloakRoles) : entry.2 ≠ "" := by
  rw [keycloakRoles_eq h] at hmem
  rcases List.mem_cons.mp hmem with rfl | hmem
  · simp
  · rcases List.mem_cons.mp hmem with rfl | hmem
    · simp
    · rw [List.mem_singleton.mp hmem]
      simp

/-!
## What the caller's groups and grants name
-/

section Named

variable (config : KeycloakConfig) (lower : String -> String) (payload : Payload)

/-- One of the caller's groups is exactly the name, the separator and the claim. -/
def exactGroup (name claim : String) : Bool :=
  payload.groups.any fun group =>
    decide (withoutSlash (lower group) = name ++ config.groupsSeparator ++ claim)

/-- The name that a tenant is held under and the claim both occur in one of the groups. -/
def matchingGroup (orgName : Option String) (claim : String) : Bool :=
  match present orgName with
  | none => false
  | some orgName =>
      payload.groups.any fun group =>
        occursIn orgName (lower group) && occursIn claim (lower group)

def subjectsOf : List String :=
  grantSubjects payload.preferredUsername payload.email payload.groups

/-- The strongest role that the caller's subjects hold on a tenant. -/
def grantedRole (db : Database) (tenantId : String) : Option String :=
  strongest (db.rolesOf tenantId (subjectsOf payload))

def HoldsGrant (db : Database) (tenantId : String) : Prop :=
  exists g, g ∈ db.grants ∧ g.tenantId = tenantId ∧ g.subject ∈ subjectsOf payload

/-- The role of the first claim with an exact group, else the strongest grant. -/
def namedRole (db : Database) (tenant : Tenant) : Option String :=
  firstOr (exactGroup config lower payload tenant.name) config.keycloakRoles
    (grantedRole payload db tenant.id)

/-- The last component of a group. -/
def lastComponent (group : String) : String :=
  (split config.groupsSeparator (withoutSlash group)).getLastD ""

end Named

theorem firstOr_isSome {p : String -> Bool} {l : List (String × String)}
    {default : Option String} :
    (firstOr p l default).isSome = true <->
      (exists claim role, (claim, role) ∈ l ∧ p claim = true) ∨ default.isSome = true := by
  unfold firstOr
  cases hfind : l.find? fun entry => p entry.1 with
  | some entry =>
      constructor
      · intro _
        have hfirst := find?_eq_some_iff.mp hfind
        exact .inl ⟨entry.1, entry.2, hfirst.mem, hfirst.holds⟩
      · intro _
        rfl
  | none =>
      constructor
      · intro h
        exact .inr h
      · rintro (⟨claim, role, hmem, hp⟩ | h)
        · exact absurd hp (List.find?_eq_none.mp hfind (claim, role) hmem)
        · exact h

theorem grantedRole_isSome {db : Database} {payload : Payload} {tenantId : String} :
    (grantedRole payload db tenantId).isSome = true <-> HoldsGrant payload db tenantId := by
  unfold grantedRole HoldsGrant
  constructor
  · intro h
    rcases Option.isSome_iff_exists.mp h with ⟨role, hrole⟩
    rcases List.mem_map.mp (Tenants.strongest_mem hrole) with ⟨g, hg, _⟩
    rcases List.mem_filter.mp hg with ⟨hmem, hmatch⟩
    rcases of_decide_eq_true hmatch with ⟨htenant, hsubject⟩
    exact ⟨g, hmem, htenant, hsubject⟩
  · rintro ⟨g, hmem, htenant, hsubject⟩
    have hrole : g.role ∈ db.rolesOf tenantId (subjectsOf payload) :=
      List.mem_map_of_mem (List.mem_filter.mpr ⟨hmem, decide_eq_true ⟨htenant, hsubject⟩⟩)
    cases hroles : db.rolesOf tenantId (subjectsOf payload) with
    | nil =>
        rw [hroles] at hrole
        cases hrole
    | cons first rest => rfl

theorem grantedRole_ne_empty {db : Database} (hwell : WellFormed db) {payload : Payload}
    {tenantId role : String} (h : grantedRole payload db tenantId = some role) : role ≠ "" := by
  rcases List.mem_map.mp (Tenants.strongest_mem h) with ⟨g, hg, hrole⟩
  rw [← hrole]
  exact hwell.roles g (List.mem_filter.mp hg).1

theorem getTenantRole_eq (db : Database) (payload : Payload) (tenantId : String) :
    db.getTenantRoleForSubjects tenantId
        (grantSubjects payload.preferredUsername payload.email payload.groups) =
      grantedRole payload db tenantId := by
  unfold Database.getTenantRoleForSubjects grantedRole
  show (if subjectsOf payload = [] then none else _) = _
  rcases Classical.em (subjectsOf payload = []) with hempty | hne
  · have hnone : db.rolesOf tenantId (subjectsOf payload) = [] := by
      unfold Database.rolesOf
      rw [List.filter_eq_nil_iff.mpr]
      · rfl
      · intro g _ hmatch
        have hsubject := (of_decide_eq_true hmatch).2
        rw [hempty] at hsubject
        cases hsubject
    rw [if_pos hempty, hnone]
    rfl
  · rw [if_neg hne]
    rfl

/-!
## An active tenant
-/

section Active

variable {config : KeycloakConfig} {lower : String -> String} {uuid4 : List Tenant -> String}

theorem getRoleInOrg_eq (payload : Payload) (orgName : Option String) :
    getRoleInOrg config lower payload.groups orgName =
      firstOr (matchingGroup lower payload orgName) config.keycloakRoles none := by
  unfold getRoleInOrg firstOr matchingGroup
  rw [Option.or_none]
  cases present orgName with
  | none =>
      simp only
      rw [List.find?_eq_none.mpr fun _ _ => Bool.false_ne_true]
      rfl
  | some orgName => rfl

/-- The role that the code finds: by the groups that match, else the strongest grant. -/
def foundRole (config : KeycloakConfig) (lower : String -> String) (payload : Payload)
    (db : Database) (tenantId : String) (orgName : Option String) : Option String :=
  firstOr (matchingGroup lower payload orgName) config.keycloakRoles
    (grantedRole payload db tenantId)

theorem firstOr_default (p : String -> Bool) (l : List (String × String))
    (default : Option String) :
    firstOr p l default = (firstOr p l none).or default := by
  unfold firstOr
  rw [Option.or_none]

theorem activeRole_eq (hclaims : RoleClaims config) {db : Database} (hwell : WellFormed db)
    {payload : Payload} {tenantId : String} (hgeneric : tenantId ≠ genericTenant)
    (hsuper : isSuperadmin config lower payload.preferredUsername payload.groups = false)
    (orgName : Option String) :
    activeRole config lower db payload tenantId orgName =
      match foundRole config lower payload db tenantId orgName with
      | none => .error noGroupError
      | some role => .ok (some role) := by
  unfold activeRole foundRole
  simp only [hgeneric, hsuper, if_false]
  rw [firstOr_default, getRoleInOrg_eq, getTenantRole_eq]
  cases hgroup : firstOr (matchingGroup lower payload orgName) config.keycloakRoles none with
  | some role =>
      have hne : role ≠ "" := by
        unfold firstOr at hgroup
        rw [Option.or_none] at hgroup
        rcases Option.map_eq_some_iff.mp hgroup with ⟨entry, hfind, hrole⟩
        rw [← hrole]
        exact role_ne_empty hclaims (List.mem_of_find?_eq_some hfind)
      rw [present_of_ne hne]
      rfl
  | none =>
      rw [Option.none_or]
      cases hgrant : grantedRole payload db tenantId with
      | some role =>
          simp only [present_of_ne (grantedRole_ne_empty hwell hgrant)]
          rfl
      | none => rfl

/-- The entity of a caller who is not a superadmin. -/
theorem entityOf_spec {bearer : BearerToken}
    (hsuper : isSuperadmin config lower bearer.payload.preferredUsername
      bearer.payload.groups = false) {tenantId : String} (hne : tenantId ≠ "")
    (role : Option String) (orgs : List (String × Option String)) :
    (entityOf config lower bearer ⟨some tenantId, role, orgs⟩).tenantId = tenantId ∧
      (entityOf config lower bearer ⟨some tenantId, role, orgs⟩).role = role := by
  constructor
  · show (present (some tenantId)).getD genericTenant = tenantId
    rw [present_of_ne hne]
    rfl
  · show (if isSuperadmin config lower _ _ then _ else _) = role
    rw [hsuper]
    rfl

/-- What the verifier answers for an active tenant. -/
theorem verify_active (hclaims : RoleClaims config) (hfresh : Fresh uuid4)
    {bearer : BearerToken} {s : VerifierState} (hwell : WellFormed s.db) {tenant : Tenant}
    (hmem : tenant ∈ s.db.tenants) (hactive : present bearer.activeTenant = some tenant.id)
    (hgeneric : tenant.id ≠ genericTenant)
    (hsuper : isSuperadmin config lower bearer.payload.preferredUsername
      bearer.payload.groups = false) :
    match foundRole config lower bearer.payload s.db tenant.id
      (s.load.getOrgNameByTenantId tenant.id) with
    | none => (verifyBearerToken config lower uuid4 bearer s).1 = .error noGroupError
    | some role => exists entity, (verifyBearerToken config lower uuid4 bearer s).1 = .ok entity ∧
        entity.tenantId = tenant.id ∧ entity.role = some role := by
  have hscan := (scanGroups_spec config lower uuid4 bearer.payload.groups s).2
  rcases active_ensureTenants hfresh
    ((orgGroups config lower bearer.payload.groups).map (getOrgName config)) hmem with
    ⟨hgrants, hname⟩
  rw [← hscan] at hgrants hname
  have hgranted : grantedRole bearer.payload
      (scanGroups config lower uuid4 bearer.payload.groups s).state.load.db tenant.id =
        grantedRole bearer.payload s.db tenant.id := by
    unfold grantedRole Database.rolesOf
    rw [load_db, hgrants]
  have hloaded : WellFormed
      (scanGroups config lower uuid4 bearer.payload.groups s).state.load.db := by
    rw [load_db, hscan]
    exact ensureTenants_invariant (fun s' => WellFormed s'.db)
      (fun name s' => ensureTenant_wellFormed hfresh name s') _ hwell
  have hrole := activeRole_eq hclaims hloaded hgeneric hsuper (s.load.getOrgNameByTenantId tenant.id)
  unfold foundRole at hrole
  rw [hgranted] at hrole
  unfold verifyBearerToken accessFromGroups
  rw [if_pos hclaims.fromGroups, hactive]
  simp only [hname]
  unfold foundRole
  cases hfound : firstOr (matchingGroup lower bearer.payload
      (s.load.getOrgNameByTenantId tenant.id)) config.keycloakRoles
      (grantedRole bearer.payload s.db tenant.id) with
  | none =>
      rw [hfound] at hrole
      simp only [hrole]
      rfl
  | some role =>
      rw [hfound] at hrole
      simp only [hrole]
      exact ⟨_, rfl, entityOf_spec hsuper (hwell.ids tenant hmem) _ _⟩

variable (config lower uuid4) in
/-- The tenant is given to those whose groups or grants name it, in the role they name. -/
structure ActiveAccess (bearer : BearerToken) (s : VerifierState) (tenant : Tenant) : Prop where
  accepted : (exists entity, (verifyBearerToken config lower uuid4 bearer s).1 = .ok entity) <->
    (exists claim role, (claim, role) ∈ config.keycloakRoles ∧
      exactGroup config lower bearer.payload tenant.name claim = true) ∨
    HoldsGrant bearer.payload s.db tenant.id
  named : forall entity, (verifyBearerToken config lower uuid4 bearer s).1 = .ok entity ->
    entity.tenantId = tenant.id ∧
      entity.role = namedRole config lower bearer.payload s.db tenant

theorem activeAccess_iff (hclaims : RoleClaims config) (hfresh : Fresh uuid4)
    {bearer : BearerToken} {s : VerifierState} (hwell : WellFormed s.db) {tenant : Tenant}
    (hmem : tenant ∈ s.db.tenants) (hactive : present bearer.activeTenant = some tenant.id)
    (hgeneric : tenant.id ≠ genericTenant)
    (hsuper : isSuperadmin config lower bearer.payload.preferredUsername
      bearer.payload.groups = false) :
    ActiveAccess config lower uuid4 bearer s tenant <->
      Agree
        (fun claim => matchingGroup lower bearer.payload
          (s.load.getOrgNameByTenantId tenant.id) claim = true)
        (fun claim => exactGroup config lower bearer.payload tenant.name claim = true)
        config.keycloakRoles (grantedRole bearer.payload s.db tenant.id) := by
  have hverify := verify_active hclaims hfresh hwell hmem hactive hgeneric hsuper
  have hnamed : (namedRole config lower bearer.payload s.db tenant).isSome = true <-> _ :=
    firstOr_isSome
  rw [grantedRole_isSome] at hnamed
  rw [← firstOr_eq_iff (roles_nodup hclaims)]
  show _ <-> foundRole config lower bearer.payload s.db tenant.id _ =
    namedRole config lower bearer.payload s.db tenant
  cases hfound : foundRole config lower bearer.payload s.db tenant.id
      (s.load.getOrgNameByTenantId tenant.id) with
  | none =>
      simp only [hfound] at hverify
      constructor
      · intro h
        cases hrole : namedRole config lower bearer.payload s.db tenant with
        | none => rfl
        | some role =>
            rcases h.accepted.mpr (hnamed.mp (by rw [hrole]; rfl)) with ⟨entity, hok⟩
            rw [hverify] at hok
            cases hok
      · intro h
        refine ⟨⟨?_, ?_⟩, ?_⟩
        · rintro ⟨entity, hok⟩
          rw [hverify] at hok
          cases hok
        · intro hnames
          have hsome := hnamed.mpr hnames
          rw [← h] at hsome
          cases hsome
        · intro entity hok
          rw [hverify] at hok
          cases hok
  | some role =>
      simp only [hfound] at hverify
      rcases hverify with ⟨entity, hok, htenant, hrole⟩
      constructor
      · intro h
        rw [← (h.named entity hok).2, hrole]
      · intro h
        refine ⟨⟨?_, ?_⟩, ?_⟩
        · intro _
          exact hnamed.mp (by rw [← h]; rfl)
        · intro _
          exact ⟨entity, hok⟩
        · intro other hother
          rw [hok] at hother
          cases hother
          exact ⟨htenant, hrole.trans h⟩

end Active

/-!
## No active tenant
-/

section Current

variable {config : KeycloakConfig} {lower : String -> String} {uuid4 : List Tenant -> String}

theorem occursIn_of_endsWith {s claim : String} (h : endsWith s claim = true) :
    occursIn claim s = true :=
  occursIn_of_infix (List.isSuffixOf_iff_suffix.mp h).isInfix

/-- A group that represents an organisation ends with a claim. -/
theorem exists_claim_of_org {group : String}
    (h : checkIfGroupRepresentsOrg config group = true) :
    occursIn config.groupsClaimsAdmin group = true ∨
      occursIn config.groupsClaimsNoc group = true ∨
        occursIn config.groupsClaimsWebhook group = true := by
  unfold checkIfGroupRepresentsOrg at h
  split at h
  · cases h
  · split at h
    · exact .inl (occursIn_of_endsWith (by assumption))
    · split at h
      · exact .inr (.inl (occursIn_of_endsWith (by assumption)))
      · split at h
        · exact .inr (.inr (occursIn_of_endsWith (by assumption)))
        · cases h

/-- The role of an organisation's group is that of the first claim that occurs in it. -/
theorem currentRole_first (hclaims : RoleClaims config) {group : String}
    (h : checkIfGroupRepresentsOrg config group = true) :
    exists entry, FirstOf (fun entry => occursIn entry.1 group = true) config.keycloakRoles
      entry ∧ currentRole config group = .ok entry.2 := by
  rw [keycloakRoles_eq hclaims]
  unfold currentRole
  cases hadmin : occursIn config.groupsClaimsAdmin group with
  | true =>
      exact ⟨_, ⟨[], _, rfl, hadmin, fun _ hnone => by cases hnone⟩, rfl⟩
  | false =>
      cases hnoc : occursIn config.groupsClaimsNoc group with
      | true =>
          refine ⟨_, ⟨[(config.groupsClaimsAdmin, "admin")], _, rfl, hnoc, ?_⟩, rfl⟩
          intro entry hentry
          rw [List.mem_singleton.mp hentry]
          exact ne_true_of_eq_false hadmin
      | false =>
          have hwebhook : occursIn config.groupsClaimsWebhook group = true := by
            rcases exists_claim_of_org h with hclaim | hclaim | hclaim
            · rw [hadmin] at hclaim
              cases hclaim
            · rw [hnoc] at hclaim
              cases hclaim
            · exact hclaim
          rw [hwebhook]
          refine ⟨_, ⟨[(config.groupsClaimsAdmin, "admin"), (config.groupsClaimsNoc, "noc")], _,
            rfl, hwebhook, ?_⟩, rfl⟩
          intro entry hentry
          rcases List.mem_cons.mp hentry with rfl | hentry
          · exact ne_true_of_eq_false hadmin
          · rw [List.mem_singleton.mp hentry]
            exact ne_true_of_eq_false hnoc

theorem toList_withoutSlash (group : String) :
    (withoutSlash group).toList <:+: group.toList := by
  unfold withoutSlash
  split
  · rw [String.toList_ofList]
    exact (List.drop_suffix 1 _).isInfix
  · exact List.infix_refl _

theorem occursIn_lastComponent (group : String) :
    occursIn (lastComponent config group) group = true := by
  have h := occursIn_getLastD_split config.groupsSeparator (withoutSlash group)
  exact occursIn_of_infix ((of_decide_eq_true h).trans (toList_withoutSlash group))

/-- The last component of the group is a claim, and no claim before it occurs in the group. -/
def NamesOneRole (config : KeycloakConfig) (group : String) : Prop :=
  exists stronger role weaker,
    config.keycloakRoles = stronger ++ (lastComponent config group, role) :: weaker ∧
      forall entry, entry ∈ stronger -> occursIn entry.1 group = false

theorem namesOneRole_iff (hclaims : RoleClaims config) {group : String} {entry : String × String}
    (hfirst : FirstOf (fun entry => occursIn entry.1 group = true) config.keycloakRoles entry) :
    NamesOneRole config group <->
      (lastComponent config group, entry.2) ∈ config.keycloakRoles := by
  constructor
  · rintro ⟨stronger, role, weaker, hroles, hnone⟩
    have hlast : FirstOf (fun entry => occursIn entry.1 group = true) config.keycloakRoles
        (lastComponent config group, role) := by
      refine ⟨stronger, weaker, hroles, occursIn_lastComponent group, ?_⟩
      intro other hother
      exact ne_true_of_eq_false (hnone other hother)
    rw [← hlast.unique hfirst]
    exact hlast.mem
  · intro hmem
    have hclaim : lastComponent config group = entry.1 :=
      eq_of_values (roles_nodup hclaims) hmem hfirst.mem
    rcases hfirst with ⟨before, after, hsplit, _, hbefore⟩
    refine ⟨before, entry.2, after, ?_, ?_⟩
    · rw [hclaim]
      exact hsplit
    · intro other hother
      exact eq_false_of_ne_true (hbefore other hother)

variable (config lower uuid4) in
/-- The caller gets the tenant that the group's organisation part names, in the role that
its last component names. -/
def CurrentAccess (bearer : BearerToken) (s : VerifierState) (group : String) : Prop :=
  exists entity, (verifyBearerToken config lower uuid4 bearer s).1 = .ok entity ∧
    (⟨entity.tenantId, getOrgName config group⟩ : Tenant) ∈
      (verifyBearerToken config lower uuid4 bearer s).2.db.tenants ∧
    exists role, (lastComponent config group, role) ∈ config.keycloakRoles ∧
      entity.role = some role

/-- What the verifier answers without an active tenant, for a caller of an organisation. -/
theorem verify_current (hclaims : RoleClaims config) {bearer : BearerToken} {s : VerifierState}
    (hinactive : present bearer.activeTenant = none) {group : String} {rest : List String}
    (hgroups : orgGroups config lower bearer.payload.groups = group :: rest)
    {role : String} (hrole : currentRole config group = .ok role) :
    let s' := ensureTenants uuid4 ((group :: rest).map (getOrgName config)) s
    (verifyBearerToken config lower uuid4 bearer s).2.db = s'.db ∧
      forall entity, (verifyBearerToken config lower uuid4 bearer s).1 = .ok entity <->
        exists tenantId, (currentTenant (getOrgName config group) s'.load).1 = .ok tenantId ∧
          entity = entityOf config lower bearer ⟨some tenantId, some role,
            (scanGroups config lower uuid4 bearer.payload.groups s).userOrgs⟩ := by
  rcases scanGroups_spec config lower uuid4 bearer.payload.groups s with ⟨hscan, hstate⟩
  rw [hgroups] at hscan hstate
  simp only
  unfold verifyBearerToken accessFromGroups
  simp only [hclaims.fromGroups, if_true, hinactive, hscan, hstate, hrole]
  refine ⟨by rw [currentTenant_db, load_db], ?_⟩
  intro entity
  cases htenant : (currentTenant (getOrgName config group)
      (ensureTenants uuid4 ((group :: rest).map (getOrgName config)) s).load).1 with
  | error e =>
      constructor
      · intro h
        cases h
      · rintro ⟨_, h, _⟩
        cases h
  | ok tenantId =>
      constructor
      · intro h
        cases h
        exact ⟨tenantId, rfl, rfl⟩
      · rintro ⟨found, h, rfl⟩
        cases h
        rfl

theorem currentAccess_iff (hclaims : RoleClaims config) (hfresh : Fresh uuid4)
    {bearer : BearerToken} {s : VerifierState} (hwell : WellFormed s.db)
    (hinactive : present bearer.activeTenant = none) {group : String} {rest : List String}
    (hgroups : orgGroups config lower bearer.payload.groups = group :: rest)
    (hsuper : isSuperadmin config lower bearer.payload.preferredUsername
      bearer.payload.groups = false) :
    CurrentAccess config lower uuid4 bearer s group <->
      HeldAgrees (getOrgName config group) s ∧ NamesOneRole config group := by
  have horg : checkIfGroupRepresentsOrg config group = true := by
    have hmem : group ∈ orgGroups config lower bearer.payload.groups := by
      rw [hgroups]
      exact List.mem_cons_self
    exact (List.mem_filter.mp hmem).2
  rcases currentRole_first hclaims horg with ⟨entry, hfirst, hrole⟩
  rcases @verify_current config lower uuid4 hclaims bearer s hinactive group rest hgroups _
    hrole with
    ⟨hdb, hverify⟩
  rw [namesOneRole_iff hclaims hfirst,
    ← currentTenant_ensureTenants hfresh (getOrgName config group)
      (rest.map (getOrgName config)) hwell]
  unfold CurrentAccess
  rw [hdb]
  constructor
  · rintro ⟨entity, hok, hmem, role, hnamed, hentity⟩
    rcases (hverify entity).mp hok with ⟨tenantId, hcurrent, rfl⟩
    rcases entityOf_spec hsuper (currentTenant_ne_empty hcurrent) (some entry.2)
      (scanGroups config lower uuid4 bearer.payload.groups s).userOrgs with ⟨hid, hgiven⟩
    rw [hid] at hmem
    rw [hgiven] at hentity
    refine ⟨⟨tenantId, hcurrent, hmem⟩, ?_⟩
    rw [Option.some.inj hentity]
    exact hnamed
  · rintro ⟨⟨tenantId, hcurrent, hmem⟩, hnamed⟩
    rcases entityOf_spec hsuper (currentTenant_ne_empty hcurrent) (some entry.2)
      (scanGroups config lower uuid4 bearer.payload.groups s).userOrgs with ⟨hid, hgiven⟩
    refine ⟨_, (hverify _).mpr ⟨tenantId, hcurrent, rfl⟩, ?_, entry.2, hnamed, hgiven⟩
    rw [hid]
    exact hmem

end Current

/-!
## Every caller
-/

section Callers

variable (config : KeycloakConfig) (lower : String -> String) (uuid4 : List Tenant -> String)

/-- A caller is given the tenants and the roles that its groups and grants name: of the
tenant that it activates, or of the first of its organisations. -/
structure GivesOwnAccess (bearer : BearerToken) (s : VerifierState) : Prop where
  active : forall tenant, tenant ∈ s.db.tenants ->
    present bearer.activeTenant = some tenant.id -> tenant.id ≠ genericTenant ->
    ActiveAccess config lower uuid4 bearer s tenant
  current : present bearer.activeTenant = none -> forall group rest,
    orgGroups config lower bearer.payload.groups = group :: rest ->
    CurrentAccess config lower uuid4 bearer s group

/-- For an active tenant: the first claim that occurs in a group together with the name that
the tenant is held under is the first with an exact group, or the grants give the same
role.  Without one: what is held for the first organisation is its tenant, and its group
names one role. -/
structure GroupsNameOwn (bearer : BearerToken) (s : VerifierState) : Prop where
  active : forall tenant, tenant ∈ s.db.tenants ->
    present bearer.activeTenant = some tenant.id -> tenant.id ≠ genericTenant ->
    Agree
      (fun claim => matchingGroup lower bearer.payload
        (s.load.getOrgNameByTenantId tenant.id) claim = true)
      (fun claim => exactGroup config lower bearer.payload tenant.name claim = true)
      config.keycloakRoles (grantedRole bearer.payload s.db tenant.id)
  current : present bearer.activeTenant = none -> forall group rest,
    orgGroups config lower bearer.payload.groups = group :: rest ->
    HeldAgrees (getOrgName config group) s ∧ NamesOneRole config group

variable {config lower uuid4}

/-- For a caller who is not a superadmin. -/
theorem givesOwnAccess_iff (hclaims : RoleClaims config) (hfresh : Fresh uuid4)
    {bearer : BearerToken} {s : VerifierState} (hwell : WellFormed s.db)
    (hsuper : isSuperadmin config lower bearer.payload.preferredUsername
      bearer.payload.groups = false) :
    GivesOwnAccess config lower uuid4 bearer s <-> GroupsNameOwn config lower bearer s := by
  constructor
  · intro h
    refine ⟨?_, ?_⟩
    · intro tenant hmem hactive hgeneric
      exact (activeAccess_iff hclaims hfresh hwell hmem hactive hgeneric hsuper).mp
        (h.active tenant hmem hactive hgeneric)
    · intro hinactive group rest hgroups
      exact (currentAccess_iff hclaims hfresh hwell hinactive hgroups hsuper).mp
        (h.current hinactive group rest hgroups)
  · intro h
    refine ⟨?_, ?_⟩
    · intro tenant hmem hactive hgeneric
      exact (activeAccess_iff hclaims hfresh hwell hmem hactive hgeneric hsuper).mpr
        (h.active tenant hmem hactive hgeneric)
    · intro hinactive group rest hgroups
      exact (currentAccess_iff hclaims hfresh hwell hinactive hgroups hsuper).mpr
        (h.current hinactive group rest hgroups)

end Callers

/-- The defaults of the configuration, with no superadmins. -/
def defaultConfig : KeycloakConfig where
  rolesFromGroups := true
  groupsClaimsAdmin := "admin"
  groupsClaimsNoc := "noc"
  groupsClaimsWebhook := "webhook"
  groupsOrgPrefix := "keep"
  groupsSeparator := "-"
  superadminUsers := []
  superadminGroups := []

/-- Two organisations, the name of one of which begins that of the other. -/
def twoOrganisations : VerifierState where
  db := ⟨[⟨"1111", "keep-org-a"⟩, ⟨"2222", "keep-org-ab"⟩], []⟩
  tenants := []

/-- A caller of one group who activates a tenant. -/
def activating (group : String) (tenantId : Option String) : BearerToken where
  activeTenant := tenantId
  token := "eyJ"
  payload := ⟨none, some "alice", none, none, none, [group], [], none⟩

/-- An id that is longer than all the ids of the tenants. -/
def longerId (tenants : List Tenant) : String :=
  String.ofList ('0' :: (tenants.map fun t => t.id.toList).flatten)

theorem longerId_fresh : Fresh longerId where
  nonempty := by
    intro tenants h
    have hlist := congrArg String.toList h
    unfold longerId at hlist
    rw [String.toList_ofList] at hlist
    cases hlist
  unused := by
    intro tenants hmem
    rcases List.mem_map.mp hmem with ⟨t, ht, hid⟩
    have hlength := congrArg (fun s => s.toList.length) hid
    unfold longerId at hlength
    simp only [String.toList_ofList, List.length_cons] at hlength
    have hmem : t.id.toList ∈ tenants.map fun t => t.id.toList :=
      List.mem_map.mpr ⟨t, ht, rfl⟩
    have hle : t.id.toList.length <= ((tenants.map fun t => t.id.toList).flatten).length :=
      (List.sublist_flatten_of_mem hmem).length_le
    omega

theorem defaultConfig_claims : RoleClaims defaultConfig where
  fromGroups := rfl
  distinct := by decide
  plain := by decide

theorem twoOrganisations_wellFormed : WellFormed twoOrganisations.db where
  ids := by decide
  roles := by decide

theorem ownGroup_access :
    GivesOwnAccess defaultConfig id longerId (activating "/keep-org-a-noc" (some "1111"))
        twoOrganisations <->
      GroupsNameOwn defaultConfig id (activating "/keep-org-a-noc" (some "1111"))
        twoOrganisations :=
  givesOwnAccess_iff defaultConfig_claims longerId_fresh twoOrganisations_wellFormed (by decide)

/-- An administrator of `keep-org-ab` activates the tenant of `keep-org-a`. -/
theorem otherGroup_access :
    ¬ GivesOwnAccess defaultConfig id longerId (activating "/keep-org-ab-admin" (some "1111"))
        twoOrganisations := by
  intro h
  have hactive := h.active ⟨"1111", "keep-org-a"⟩ (by decide) (by decide) (by decide)
  have hadmin : (verifyBearerToken defaultConfig id longerId
      (activating "/keep-org-ab-admin" (some "1111")) twoOrganisations).1.toBool = true := by
    decide
  have haccepted : exists entity, (verifyBearerToken defaultConfig id longerId
      (activating "/keep-org-ab-admin" (some "1111")) twoOrganisations).1 = .ok entity := by
    cases hverify : (verifyBearerToken defaultConfig id longerId
        (activating "/keep-org-ab-admin" (some "1111")) twoOrganisations).1 with
    | ok entity => exact ⟨entity, rfl⟩
    | error e =>
        rw [hverify] at hadmin
        cases hadmin
  rcases hactive.accepted.mp haccepted with ⟨claim, role, hmem, hexact⟩ | ⟨g, hg, _⟩
  · have hnone : forall entry, entry ∈ defaultConfig.keycloakRoles ->
        exactGroup defaultConfig id (activating "/keep-org-ab-admin" (some "1111")).payload
          "keep-org-a" entry.1 = false := by
      decide
    rw [hnone (claim, role) hmem] at hexact
    cases hexact
  · cases hg

end Identity
end KeepGateway
