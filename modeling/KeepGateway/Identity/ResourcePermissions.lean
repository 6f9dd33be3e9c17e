import Mathlib.Data.List.Nodup
import Mathlib.Data.List.Induction

/-!
# Permissions on resources

`create_permissions` of `keycloak_identitymanager.py`, over what Keycloak keeps of a client.  The
names of policies and permissions are unique; creating one whose name is there is answered
with 409.
-/

namespace KeepGateway
namespace Identity
namespace Permissions

/-- Whom a policy allows. -/
inductive Subject where
  | user (id : String)
  | group (id : String)
  deriving DecidableEq, Repr

structure Resource where
  name : String
  displayName : String
  type : String
  deriving DecidableEq, Repr

structure Policy where
  name : String
  subject : Subject
  deriving DecidableEq, Repr

/-- A permission on a resource; its policies are given by their places. -/
structure Permission where
  name : String
  resources : List String
  policies : List Nat
  deriving DecidableEq, Repr

/-- No policy is ever deleted, so that the place of a policy stands for its id. -/
structure Store where
  resources : List Resource
  policies : List Policy
  permissions : List Permission
  deriving DecidableEq, Repr

structure User where
  id : String
  email : Option String
  deriving DecidableEq, Repr

/-- The users, and the ids of the groups that a search returns. -/
structure Realm where
  users : List User
  searchGroups : String -> List String

structure PermissionEntity where
  id : String
  type : String
  deriving DecidableEq, Repr

structure ResourcePermission where
  resourceId : String
  resourceName : String
  resourceType : String
  permissions : List PermissionEntity
  deriving DecidableEq, Repr

/-!
## Policies
-/

/-- The user or the group of an entity. -/
def resolve (realm : Realm) (entity : PermissionEntity) : Except (Nat × String) Subject :=
  if entity.type = "user" then
    match realm.users.find? fun user => user.email == some entity.id with
    | some user => .ok (.user user.id)
    | none => .error (400, "User not found")
  else
    match realm.searchGroups entity.id with
    | [group] => .ok (.group group)
    | _ => .error (400, "Problem with group")

def ResourcePermission.suffix (permission : ResourcePermission) : String :=
  " to access resource type " ++ permission.resourceType ++ " with name " ++ permission.resourceName

def policyName (permission : ResourcePermission) (entity : PermissionEntity) :
    Subject -> String
  | .user id => "Allow user " ++ (id ++ permission.suffix)
  | .group _ => "Allow group " ++ (entity.id ++ permission.suffix)

/-- The request for a new policy; there is no id where the name is taken. -/
def Store.createPolicy (store : Store) (name : String) (subject : Subject) : Store × Option Nat :=
  if name ∈ store.policies.map Policy.name then (store, none)
  else ({ store with policies := store.policies ++ [⟨name, subject⟩] }, some store.policies.length)

/-- The loop over the entities of a permission: `create_user_policy` and `create_group_policy`. -/
def createPolicies (realm : Realm) (permission : ResourcePermission) :
    Store -> List PermissionEntity -> Store × Except (Nat × String) (List Nat)
  | store, [] => (store, .ok [])
  | store, entity :: rest =>
      match resolve realm entity with
      | .error _ => (store, .error (500, "Failed to create policy"))
      | .ok subject =>
          let (store, policyId) := store.createPolicy (policyName permission entity subject) subject
          let (store, policies) := createPolicies realm permission store rest
          (store, policies.map (policyId.toList ++ ·))

/-!
## Permissions
-/

/-- `create_client_authz_resource` with `skip_exists` -/
def Store.createResource (store : Store) (permission : ResourcePermission) : Store :=
  if permission.resourceId ∈ store.resources.map Resource.name then store
  else
    { store with
      resources := store.resources ++
        [⟨permission.resourceId, permission.resourceName,
          "urn:keep:resources:keep_" ++ permission.resourceType⟩] }

def permissionName (permission : ResourcePermission) : String :=
  "Permission for resource " ++ permission.resourceName ++ " (" ++ permission.resourceId ++ ")"

/-- What is sent for a permission. -/
def storedPermission (permission : ResourcePermission) (policies : List Nat) : Permission :=
  ⟨permissionName permission, [permission.resourceId], policies⟩

/-- A permission is updated where its name was there when the call began, else created. -/
def Store.applyPolicies (existing : List String) (permission : ResourcePermission)
    (policies : List Nat) (store : Store) : Store × Except (Nat × String) Unit :=
  let stored := storedPermission permission policies
  if stored.name ∈ existing then
    ({ store with
      permissions := store.permissions.map fun other =>
        if other.name = stored.name then stored else other }, .ok ())
  else if stored.name ∈ store.permissions.map Permission.name then
    (store, .error (500, "Failed to create permissions"))
  else ({ store with permissions := store.permissions ++ [stored] }, .ok ())

/-- The body of the loop over the permissions. -/
def createPermission (realm : Realm) (existing : List String) (store : Store)
    (permission : ResourcePermission) : Store × Except (Nat × String) Unit :=
  match createPolicies realm permission (store.createResource permission)
    permission.permissions with
  | (store, .error error) => (store, .error error)
  | (store, .ok policies) => store.applyPolicies existing permission policies

def createEach (realm : Realm) (existing : List String) :
    Store -> List ResourcePermission -> Store × Except (Nat × String) Unit
  | store, [] => (store, .ok ())
  | store, permission :: rest =>
      match createPermission realm existing store permission with
      | (store, .error error) => (store, .error error)
      | (store, .ok ()) => createEach realm existing store rest

def createPermissions (realm : Realm) (store : Store) (permissions : List ResourcePermission) :
    Store × Except (Nat × String) Unit :=
  createEach realm (store.permissions.map Permission.name) store permissions

/-!
## Access
-/

/-- Whom a stored permission lets in. -/
def Store.access (store : Store) (permission : Permission) : List Subject :=
  permission.policies.filterMap fun id => store.policies[id]?.map Policy.subject

def Store.HasAccess (store : Store) (name : String) (subject : Subject) : Prop :=
  exists permission, permission ∈ store.permissions ∧ permission.name = name ∧
    subject ∈ store.access permission

def Lists (realm : Realm) (permission : ResourcePermission) (subject : Subject) : Prop :=
  exists entity, entity ∈ permission.permissions ∧ resolve realm entity = .ok subject

/-- What Keycloak keeps is consistent. -/
structure Store.Valid (store : Store) : Prop where
  names : (store.permissions.map Permission.name).Nodup
  applied : forall permission, permission ∈ store.permissions ->
    forall id, id ∈ permission.policies -> id < store.policies.length

/-- What earlier calls, that succeed or fail, have left. -/
inductive Reachable : Store -> Prop where
  | empty : Reachable ⟨[], [], []⟩
  | call {store : Store} (realm : Realm) (permissions : List ResourcePermission) :
      Reachable store -> Reachable (createPermissions realm store permissions).1

/-- The call succeeds, and each permission lets those in that are listed for it. -/
structure GrantsListed (realm : Realm) (store : Store)
    (permissions : List ResourcePermission) : Prop where
  succeeds : (createPermissions realm store permissions).2 = .ok ()
  granted : forall permission, permission ∈ permissions ->
    permissionName permission ∈
        (createPermissions realm store permissions).1.permissions.map Permission.name ∧
      forall subject,
        (createPermissions realm store permissions).1.HasAccess (permissionName permission)
            subject <->
          Lists realm permission subject

/-- Nobody's access differs. -/
def SameAccess (store store' : Store) : Prop :=
  forall name subject, store.HasAccess name subject <-> store'.HasAccess name subject

/-- The policy name of the subject in a listed entity. -/
def Names (realm : Realm) (permission : ResourcePermission) (name : String) : Prop :=
  exists entity, entity ∈ permission.permissions ∧
    exists subject, resolve realm entity = .ok subject ∧
      policyName permission entity subject = name

/-- The subject is listed under a policy name that is neither stored nor used by an earlier
permission of the call. -/
def ListsFresh (realm : Realm) (store : Store) (before : List ResourcePermission)
    (permission : ResourcePermission) (subject : Subject) : Prop :=
  exists entity, entity ∈ permission.permissions ∧ resolve realm entity = .ok subject ∧
    policyName permission entity subject ∉ store.policies.map Policy.name ∧
    forall earlier, earlier ∈ before ->
      ¬ Names realm earlier (policyName permission entity subject)

/-- A new permission is named once, and whoever is listed for a name is listed under a fresh policy
name by the last permission that has it. -/
structure Grantable (realm : Realm) (store : Store)
    (permissions : List ResourcePermission) : Prop where
  once : forall before permission after, permissions = before ++ permission :: after ->
    permissionName permission ∉ store.permissions.map Permission.name ->
    forall earlier, earlier ∈ before -> permissionName earlier ≠ permissionName permission
  fresh : forall before permission after, permissions = before ++ permission :: after ->
    (forall later, later ∈ after -> permissionName later ≠ permissionName permission) ->
    forall other, other ∈ permissions -> permissionName other = permissionName permission ->
      forall subject, Lists realm other subject <->
        ListsFresh realm store before permission subject

end Permissions
end Identity
end KeepGateway
