import KeepGateway.Lib.Dict
import KeepGateway.Lib.Separated
import KeepGateway.Tenants.RoleGrants

/-!
# The Keycloak verifier

`KeycloakAuthVerifier._verify_bearer_token`, from the decoded token on.
-/

namespace KeepGateway
namespace Identity

open Separated
open Tenants (Tenant Database HttpException AuthenticatedEntity present)

/-- `GENERIC_TENANT_UUID` -/
def genericTenant : String := "keep"

/-- What the verifier is configured with; the prefix, the separator and the superadmins are
in lower case. -/
structure KeycloakConfig where
  rolesFromGroups : Bool
  groupsClaimsAdmin : String
  groupsClaimsNoc : String
  groupsClaimsWebhook : String
  groupsOrgPrefix : String
  groupsSeparator : String
  superadminUsers : List String
  superadminGroups : List String
  deriving DecidableEq, Repr

/-- `keycloak_roles`, with the values of the roles. -/
def KeycloakConfig.keycloakRoles (config : KeycloakConfig) : List (String × String) :=
  Dict.update [] [(config.groupsClaimsAdmin, "admin"), (config.groupsClaimsNoc, "noc"),
    (config.groupsClaimsWebhook, "webhook")]

/-- What is read of a decoded token. -/
structure Payload where
  keepTenantId : Option String
  preferredUsername : Option String
  email : Option String
  orgId : Option String
  orgRealm : Option String
  groups : List String
  /-- The roles of the client in `resource_access`. -/
  clientRoles : List String
  keepRole : Option String
  deriving DecidableEq, Repr

/-- A bearer token: the tenant that it activates, the rest, and what that decodes to. -/
structure BearerToken where
  activeTenant : Option String
  token : String
  payload : Payload
  deriving DecidableEq, Repr

structure VerifiedEntity extends AuthenticatedEntity where
  tenantId : String
  orgId : Option String
  orgRealm : Option String
  token : String
  userOrgs : List (String × Option String)
  deriving DecidableEq, Repr

inductive VerifyError where
  | http (e : HttpException)
  | attributeError
  deriving DecidableEq, Repr

/-- The tables, and `_tenants`: the ids that the verifier holds by name. -/
structure VerifierState where
  db : Database
  tenants : List (String × Option String)
  deriving DecidableEq, Repr

/-!
## Tenants
-/

/-- `create_tenant`; for a name that exists the id is unbound, and the error is passed over. -/
def createTenant (uuid4 : List Tenant -> String) (tenantName : String) (db : Database) :
    Option String × Database :=
  if db.tenants.any fun t => t.name = tenantName then (none, db)
  else (some (uuid4 db.tenants),
    { db with tenants := db.tenants ++ [⟨uuid4 db.tenants, tenantName⟩] })

namespace VerifierState

/-- The tenants of the table, by name. -/
def table (db : Database) : List (String × Option String) :=
  db.tenants.map fun t => (t.name, some t.id)

/-- `tenants`: read from the table when none are held. -/
def load (s : VerifierState) : VerifierState :=
  if s.tenants = [] then { s with tenants := table s.db } else s

/-- `_reload_tenants` -/
def reload (s : VerifierState) : VerifierState := { s with tenants := table s.db }

/-- `get_org_name_by_tenant_id` -/
def getOrgNameByTenantId (s : VerifierState) (tenantId : String) : Option String :=
  (s.tenants.find? fun entry => entry.2 = some tenantId).map Prod.fst

end VerifierState

section Verifier

variable (config : KeycloakConfig) (lower : String -> String) (uuid4 : List Tenant -> String)

/-!
## Groups
-/

def checkIfGroupRepresentsOrg (groupName : String) : Bool :=
  if !startsWith groupName config.groupsOrgPrefix &&
      !startsWith groupName ("/" ++ config.groupsOrgPrefix) then false
  else if endsWith groupName config.groupsClaimsAdmin then true
  else if endsWith groupName config.groupsClaimsNoc then true
  else if endsWith groupName config.groupsClaimsWebhook then true
  else false

/-- A group name without the `/` that Keycloak starts it with. -/
def withoutSlash (groupName : String) : String :=
  if startsWith groupName "/" then String.ofList (groupName.toList.drop 1) else groupName

def getOrgName (groupName : String) : String :=
  join config.groupsSeparator (split config.groupsSeparator (withoutSlash groupName)).dropLast

def isSuperadmin (email : Option String) (userGroups : List String) : Bool :=
  (match present email with
    | some email => config.superadminUsers.contains (lower email)
    | none => false) ||
  userGroups.any fun group => config.superadminGroups.contains (lower group)

def grantSubjects (email userEmail : Option String) (userGroups : List String) : List String :=
  (present email).toList ++ (present userEmail).toList ++ userGroups

def getRoleInOrg (userGroups : List String) (orgName : Option String) : Option String :=
  match present orgName with
  | none => none
  | some orgName =>
      (config.keycloakRoles.find? fun entry =>
        userGroups.any fun group =>
          occursIn orgName (lower group) && occursIn entry.1 (lower group)).map Prod.snd

def roleFromTokenClaims (payload : Payload) : String :=
  match payload.clientRoles.filter fun r => !startsWith r "uma_protection" with
  | role :: _ => role
  | [] => (present payload.keepRole).getD "editor"

/-!
## The token
-/

/-- What the loop over the groups has gathered. -/
structure GroupScan where
  state : VerifierState
  groupsThatRepresentOrgs : List String
  userOrgs : List (String × Option String)
  deriving DecidableEq, Repr

/-- The tenant of an organisation is created when the verifier holds none. -/
def ensureTenant (orgName : String) (s : VerifierState) : VerifierState :=
  let s := s.load
  if orgName ∈ s.tenants.map Prod.fst then s
  else
    let created := createTenant uuid4 orgName s.db
    let s := { s with db := created.2 }.load
    { s with tenants := Dict.set orgName created.1 s.tenants }

def scanGroup (scan : GroupScan) (group : String) : GroupScan :=
  let groupLower := lower group
  if checkIfGroupRepresentsOrg config groupLower then
    let orgName := getOrgName config groupLower
    let s := ensureTenant uuid4 orgName scan.state
    { state := s
      groupsThatRepresentOrgs := scan.groupsThatRepresentOrgs ++ [groupLower]
      userOrgs := Dict.set orgName (s.tenants.lookup orgName).join scan.userOrgs }
  else scan

def scanGroups (groups : List String) (s : VerifierState) : GroupScan :=
  groups.foldl (scanGroup config lower uuid4) ⟨s, [], []⟩

def noGroupError : VerifyError :=
  .http ⟨401, "Invalid Keycloak token - could not find any group that represents the org " ++
    "and the role"⟩

/-- The role in the tenant that the caller activates. -/
def activeRole (db : Database) (payload : Payload) (activeTenant : String)
    (orgName : Option String) : Except VerifyError (Option String) :=
  let groups := payload.groups
  let role := present (getRoleInOrg config lower groups orgName)
  let role := match role with
    | some role => some role
    | none => present (db.getTenantRoleForSubjects activeTenant
        (grantSubjects payload.preferredUsername payload.email groups))
  let role := match role with
    | some role => some role
    | none =>
        if activeTenant = genericTenant then present (some (roleFromTokenClaims payload))
        else none
  if role = none && !isSuperadmin config lower payload.preferredUsername groups then
    .error noGroupError
  else .ok role

/-- The id of the tenant of the first organisation, read again when it is not known. -/
def currentTenant (orgName : String) (s : VerifierState) :
    Except VerifyError String × VerifierState :=
  match s.tenants.lookup orgName with
  | none => (.error .attributeError, s)
  | some held =>
      match present held with
      | some tenantId => (.ok tenantId, s)
      | none =>
          let s := s.reload
          match s.tenants.lookup orgName with
          | none => (.error .attributeError, s)
          | some held =>
              match present held with
              | some tenantId => (.ok tenantId, s)
              | none => (.error noGroupError, s)

def currentRole (currentTenantGroup : String) : Except VerifyError String :=
  if occursIn config.groupsClaimsAdmin currentTenantGroup then .ok "admin"
  else if occursIn config.groupsClaimsNoc currentTenantGroup then .ok "noc"
  else if occursIn config.groupsClaimsWebhook currentTenantGroup then .ok "webhook"
  else .error (.http ⟨401, "Invalid Keycloak token - no role in groups"⟩)

/-- A tenant, a role in it and the caller's organisations. -/
structure Access where
  tenantId : Option String
  role : Option String
  userOrgs : List (String × Option String)
  deriving DecidableEq, Repr

/-- `get_tenants_for_subjects` -/
def getTenantsForSubjects (db : Database) (subjects : List String) : List Tenant :=
  db.tenants.filter fun t =>
    (db.grants.filter fun g => g.subject ∈ subjects).any fun g => g.tenantId = t.id

/-- Without an active tenant and without an organisation. -/
def grantedAccess (db : Database) (payload : Payload) (userOrgs : List (String × Option String)) :
    Access :=
  let subjects := grantSubjects payload.preferredUsername payload.email payload.groups
  match getTenantsForSubjects db subjects with
  | first :: rest =>
      { tenantId := some first.id
        role := some
          ((present (db.getTenantRoleForSubjects first.id subjects)).getD "viewer")
        userOrgs := (first :: rest).foldl (fun orgs t => Dict.set t.name (some t.id) orgs) [] }
  | [] =>
      { tenantId := some ((present payload.keepTenantId).getD genericTenant)
        role := some (roleFromTokenClaims payload)
        userOrgs := userOrgs }

/-- The branches for roles taken from groups. -/
def accessFromGroups (bearer : BearerToken) (s : VerifierState) :
    Except VerifyError Access × VerifierState :=
  let payload := bearer.payload
  let scan := scanGroups config lower uuid4 payload.groups s
  match present bearer.activeTenant, scan.groupsThatRepresentOrgs with
  | some activeTenant, _ =>
      let s := scan.state.load
      let role := activeRole config lower s.db payload activeTenant
        (s.getOrgNameByTenantId activeTenant)
      (role.map fun role => ⟨some activeTenant, role, scan.userOrgs⟩, s)
  | none, currentTenantGroup :: _ =>
      let tenant := currentTenant (getOrgName config currentTenantGroup) scan.state.load
      (tenant.1.bind fun tenantId =>
        (currentRole config currentTenantGroup).map fun role =>
          ⟨some tenantId, some role, scan.userOrgs⟩, tenant.2)
  | none, [] =>
      if isSuperadmin config lower payload.preferredUsername payload.groups then
        (.ok ⟨some ((present payload.keepTenantId).getD genericTenant), some "superadmin",
          scan.userOrgs⟩, scan.state)
      else (.ok (grantedAccess scan.state.db payload scan.userOrgs), scan.state)

/-- The branch of a single tenant. -/
def accessFromClient (payload : Payload) : Except VerifyError Access :=
  match payload.clientRoles.filter fun r => !startsWith r "uma_protection" with
  | [] => .error (.http ⟨401, "Invalid Keycloak token - no role"⟩)
  | role :: _ => .ok ⟨payload.keepTenantId, some role, []⟩

def entityOf (bearer : BearerToken) (access : Access) : VerifiedEntity :=
  let payload := bearer.payload
  { email := payload.preferredUsername
    userEmail := payload.email
    groups := some payload.groups
    role :=
      if isSuperadmin config lower payload.preferredUsername payload.groups then
        some "superadmin"
      else access.role
    tenantId := (present access.tenantId).getD genericTenant
    orgId := payload.orgId
    orgRealm := payload.orgRealm
    token := bearer.token
    userOrgs := access.userOrgs }

def verifyBearerToken (bearer : BearerToken) (s : VerifierState) :
    Except VerifyError VerifiedEntity × VerifierState :=
  let access :=
    if config.rolesFromGroups then accessFromGroups config lower uuid4 bearer s
    else (accessFromClient bearer.payload, s)
  (access.1.map (entityOf config lower bearer), access.2)

end Verifier

end Identity
end KeepGateway
