import KeepGateway.Lib.Except

/-!
# Role grants

`tenant_role_grant`, the effective role of a caller on a tenant, and the endpoints that
write grants.
-/

namespace KeepGateway
namespace Tenants

structure TenantRoleGrant where
  tenantId : String
  subject : String
  subjectType : String
  role : String
  deriving DecidableEq, Repr

structure Tenant where
  id : String
  name : String
  deriving DecidableEq, Repr

/-- The primary key of `grants` is the tenant with the subject. -/
structure Database where
  tenants : List Tenant
  grants : List TenantRoleGrant
  deriving DecidableEq, Repr

structure AuthenticatedEntity where
  email : Option String
  userEmail : Option String
  groups : Option (List String)
  role : Option String
  deriving DecidableEq, Repr

structure HttpException where
  statusCode : Nat
  detail : String
  deriving DecidableEq, Repr

inductive PyException where
  | http (e : HttpException)
  | keyError (key : String)
  deriving DecidableEq, Repr

/-!
## The effective role
-/

/-- `_ROLE_STRENGTH` -/
def roleStrength : String -> Option Nat
  | "admin" => some 3
  | "editor" => some 2
  | "viewer" => some 1
  | _ => none

/-- `max(roles, key=...)`: the first of the strongest. -/
def strongest : List String -> Option String
  | [] => none
  | role :: rest =>
      some (rest.foldl
        (fun best next =>
          if (roleStrength best).getD 0 < (roleStrength next).getD 0 then next else best)
        role)

/-- The roles that the subjects hold on a tenant. -/
def Database.rolesOf (db : Database) (tenantId : String) (subjects : List String) : List String :=
  (db.grants.filter fun g => g.tenantId = tenantId ∧ g.subject ∈ subjects).map TenantRoleGrant.role

def Database.getTenantRoleForSubjects (db : Database) (tenantId : String)
    (subjects : List String) : Option String :=
  if subjects = [] then none else strongest (db.rolesOf tenantId subjects)

/-- A string that Python takes for true. -/
def present : Option String -> Option String
  | some "" => none
  | value => value

/-- The username, the email and the group paths of the caller. -/
def getSubjects (entity : AuthenticatedEntity) : List String :=
  let username := (present entity.email).toList
  let email := (present entity.userEmail).toList.filter fun e => e ∉ username
  username ++ email ++ entity.groups.getD []

def isSuperadmin (entity : AuthenticatedEntity) : Bool := entity.role = some "superadmin"

def resolveTenantRole (db : Database) (entity : AuthenticatedEntity) (tenantId : String) :
    Option String :=
  if isSuperadmin entity then some "admin"
  else db.getTenantRoleForSubjects tenantId (getSubjects entity)

/-- `_ROLE_STRENGTH[role]` -/
def strengthOf (role : String) : Except PyException Nat :=
  match roleStrength role with
  | some strength => .ok strength
  | none => .error (.keyError role)

def assertTenantRole (db : Database) (entity : AuthenticatedEntity) (tenantId minimum : String) :
    Except PyException String :=
  let refused := PyException.http ⟨403, "Requires " ++ minimum ++ " role on this tenant"⟩
  match resolveTenantRole db entity tenantId with
  | none => .error refused
  | some role => do
      let strength <- strengthOf role
      let needed <- strengthOf minimum
      if strength < needed then .error refused else .ok role

/-!
## Writing grants
-/

structure RoleAssignment where
  subject : String
  subjectType : String
  role : String
  deriving DecidableEq, Repr

def RoleAssignment.grant (tenantId : String) (m : RoleAssignment) : TenantRoleGrant :=
  ⟨tenantId, m.subject, m.subjectType, m.role⟩

def isGrantOf (tenantId subject : String) (g : TenantRoleGrant) : Bool :=
  g.tenantId == tenantId && g.subject == subject

/-- The grant of the subject is added or updated. -/
def Database.addGrant (db : Database) (tenantId : String) (m : RoleAssignment) : Database :=
  match db.grants.find? (isGrantOf tenantId m.subject) with
  | none => { db with grants := db.grants ++ [m.grant tenantId] }
  | some _ =>
      { db with
        grants := db.grants.map fun g =>
          if isGrantOf tenantId m.subject g then
            { g with subjectType := m.subjectType, role := m.role }
          else g }

/-- `none` where there is no grant to remove. -/
def Database.removeGrant (db : Database) (tenantId subject : String) : Option Database :=
  match db.grants.find? (isGrantOf tenantId subject) with
  | none => none
  | some _ =>
      some { db with grants := db.grants.filter fun g => !isGrantOf tenantId subject g }

/-- `create_tenant_atomic`: `none` where the insert breaks a constraint of the tables. -/
def Database.createTenantAtomic (db : Database) (id name : String)
    (roleMappings : List RoleAssignment) : Option Database :=
  if db.tenants.any (fun t => t.id == id || t.name == name) then none
  else if roleMappings.any fun m => db.grants.any (isGrantOf id m.subject) then none
  else
    some
      { tenants := db.tenants ++ [⟨id, name⟩]
        grants := db.grants ++ roleMappings.map (RoleAssignment.grant id) }

/-!
## Endpoints
-/

def validateRoleMapping (m : RoleAssignment) : Except PyException Unit :=
  if m.subjectType ∉ ["user", "group"] then
    .error (.http ⟨400, "Invalid subject_type '" ++ m.subjectType ++ "' (expected user/group)"⟩)
  else if m.role ∉ ["admin", "editor", "viewer"] then
    .error (.http ⟨400, "Invalid role '" ++ m.role ++ "' (expected admin/editor/viewer)"⟩)
  else .ok ()

def validateRoleMappings (roleMappings : List RoleAssignment) : Except PyException Unit := do
  let _ <- roleMappings.mapM validateRoleMapping
  if (roleMappings.map RoleAssignment.subject).Nodup then .ok ()
  else .error (.http ⟨400, "Duplicate subject in role_mappings"⟩)

def guardSelfModification (entity : AuthenticatedEntity) (subject : String) :
    Except PyException Unit :=
  if !isSuperadmin entity && (getSubjects entity).contains subject then
    .error (.http ⟨400, "You cannot modify your own permissions"⟩)
  else .ok ()

structure CreateTenantRequest where
  name : String
  roleMappings : List RoleAssignment
  deriving DecidableEq, Repr

/-- The checks of the endpoint, and the insert under a new id. -/
def createTenantEndpoint (strip : String -> String) (newId : String)
    (entity : AuthenticatedEntity) (body : CreateTenantRequest) (db : Database) :
    Except PyException Database :=
  if !isSuperadmin entity then
    .error (.http ⟨403, "Only a superadmin can create a tenant"⟩)
  else if body.name = "" ∨ strip body.name = "" then
    .error (.http ⟨400, "Tenant name is required"⟩)
  else do
    let _ <- validateRoleMappings body.roleMappings
    if body.roleMappings.any fun m => m.role == "admin" then
      match db.createTenantAtomic newId (strip body.name) body.roleMappings with
      | none => .error (.http ⟨409, "Tenant name already exists"⟩)
      | some db' => .ok db'
    else .error (.http ⟨400, "At least one admin assignment is required"⟩)

/-- `add_role_endpoint`, behind `require_tenant_admin`. -/
def addRoleEndpoint (entity : AuthenticatedEntity) (tenantId : String) (body : RoleAssignment)
    (db : Database) : Except PyException Database := do
  let _ <- assertTenantRole db entity tenantId "admin"
  let _ <- validateRoleMappings [body]
  let _ <- guardSelfModification entity body.subject
  .ok (db.addGrant tenantId body)

/-- `remove_role_endpoint`, behind `require_tenant_admin`. -/
def removeRoleEndpoint (entity : AuthenticatedEntity) (tenantId subject : String)
    (db : Database) : Except PyException Database := do
  let _ <- assertTenantRole db entity tenantId "admin"
  let _ <- guardSelfModification entity subject
  match db.removeGrant tenantId subject with
  | none => .error (.http ⟨404, "Grant not found"⟩)
  | some db' => .ok db'

inductive RoleRequest where
  | addRole (body : RoleAssignment)
  | removeRole (subject : String)
  deriving DecidableEq, Repr

/-- A call of one of the two endpoints. -/
structure RoleCall where
  entity : AuthenticatedEntity
  tenantId : String
  request : RoleRequest
  deriving DecidableEq, Repr

def RoleCall.run (call : RoleCall) (db : Database) : Except PyException Database :=
  match call.request with
  | .addRole body => addRoleEndpoint call.entity call.tenantId body db
  | .removeRole subject => removeRoleEndpoint call.entity call.tenantId subject db

/-- The tables after a call; a call that is refused leaves them. -/
def RoleCall.apply (db : Database) (call : RoleCall) : Database :=
  match call.run db with
  | .ok db' => db'
  | .error _ => db

end Tenants
end KeepGateway
