import KeepGateway.EnrichmentRules.Mapping
import KeepGateway.Tenants.ApiKeys

/-!
# The single tenant

`try_create_single_tenant` of `db_on_start.py`: the tenant, the default user and the default API
keys, in one transaction.
-/

namespace KeepGateway
namespace Tenants
namespace SingleTenant

open EnrichmentRules (strip)

/-!
## The database
-/

structure Tenant where
  id : String
  name : String
  deriving DecidableEq, Repr

structure User where
  username : String
  passwordHash : String
  role : String
  deriving DecidableEq, Repr

/-- The rows that a session sees, in any order. -/
structure Database where
  tenants : List Tenant
  users : List User
  keys : List TenantApiKey
  deriving DecidableEq, Repr

/-- The primary keys, `uq_tenant_name`, and that usernames are unique. -/
def Database.consistent (db : Database) : Bool :=
  decide (db.tenants.map Tenant.id).Nodup && decide (db.tenants.map Tenant.name).Nodup &&
    decide (db.users.map User.username).Nodup && uniqueKeys db.keys

/-- What is committed keeps the constraints. -/
structure Stored where
  db : Database
  consistent : db.consistent = true

/-- What is raised in the transaction. -/
inductive Failure where
  | integrityError
  | moduleNotFoundError
  | unboundLocalError
  deriving DecidableEq, Repr

/-- The pending rows are written, before each query and at the commit. -/
def flush (db : Database) : Except Failure Database :=
  if db.consistent then .ok db else .error .integrityError

/-!
## The settings
-/

structure Settings where
  defaultUsername : String
  defaultPassword : String
  forceResetDefaultPassword : Bool
  /-- `KEEP_DEFAULT_API_KEYS`, empty where it is not set. -/
  defaultApiKeys : String
  /-- Python finds `contextmanager.contextmanager` and `secretmanager.secretmanagerfactory`. -/
  modulesFound : Bool
  /-- The writes that the secret manager fails. -/
  writeFails : String -> Bool

structure Entry where
  name : String
  role : String
  secret : String
  deriving DecidableEq, Repr

/-- An entry that splits into three parts; `ValueError` otherwise. -/
def parseEntry (defaultApiKey : String) : Option Entry :=
  match Separated.split ":" (strip defaultApiKey) with
  | [name, role, secret] => some ⟨name, role, secret⟩
  | _ => none

section

variable (sha256 : String -> String) (settings : Settings) (tenantId : String)

/-!
## Tenant and user
-/

def addTenant (db : Database) : Database :=
  if db.tenants.any fun tenant => tenant.id == tenantId then db
  else { db with tenants := db.tenants ++ [⟨tenantId, "Single Tenant"⟩] }

def defaultUser : User where
  username := settings.defaultUsername
  passwordHash := sha256 settings.defaultPassword
  role := "admin"

/-- The default user where there is no user, or the forced reset of the first one. -/
def provisionUser (createDefaultUser : Bool) (db : Database) : Database :=
  match db.users with
  | [] => if createDefaultUser then { db with users := [defaultUser sha256 settings] } else db
  | user :: others =>
      if settings.forceResetDefaultPassword then
        { db with users :=
            { user with
              passwordHash := sha256 settings.defaultPassword
              username := settings.defaultUsername } :: others }
      else db

/-!
## Keys
-/

def newKey (entry : Entry) : TenantApiKey where
  tenantId := tenantId
  referenceId := entry.name
  keyHash := sha256 entry.secret
  isSystem := true
  isDeleted := false
  systemDescription := none
  createdBy := "system"
  role := entry.role

/-- `write_secret`, under the `except` that takes whatever it raises. -/
def writeSecret (entry : Entry) (secrets : List (String × String)) : List (String × String) :=
  let name := tenantId ++ "-" ++ entry.name
  if settings.writeFails name then secrets else Dict.set name entry.secret secrets

/-- The loop over the entries.  The three variables keep the values of the last entry that was
well-formed; before the first one they have none. -/
def provisionKeys : List String -> Option Entry -> Database -> List (String × String) ->
    Except Failure Database × List (String × String)
  | [], _, db, secrets => (.ok db, secrets)
  | defaultApiKey :: rest, last, db, secrets =>
      match (parseEntry defaultApiKey).or last with
      | none => (.error .unboundLocalError, secrets)
      | some entry =>
          match flush db with
          | .error e => (.error e, secrets)
          | .ok db =>
              if db.keys.any fun key => key.referenceId == entry.name then
                provisionKeys rest (some entry) db secrets
              else
                provisionKeys rest (some entry)
                  { db with keys := db.keys ++ [newKey sha256 tenantId entry] }
                  (writeSecret settings tenantId entry secrets)

def provisionDefaultApiKeys (db : Database) (secrets : List (String × String)) :
    Except Failure Database × List (String × String) :=
  if settings.defaultApiKeys = "" then (.ok db, secrets)
  else if settings.modulesFound then
    provisionKeys sha256 settings tenantId (Separated.split "," settings.defaultApiKeys) none db
      secrets
  else (.error .moduleNotFoundError, secrets)

/-!
## The transaction
-/

/-- What the transaction leaves for the commit.  The queries for the tenant and for a user are the
first two; the second one writes the tenant. -/
def transaction (createDefaultUser : Bool) (db : Database) (secrets : List (String × String)) :
    Except Failure Database × List (String × String) :=
  match flush (addTenant tenantId db) with
  | .error e => (.error e, secrets)
  | .ok db =>
      provisionDefaultApiKeys sha256 settings tenantId
        (provisionUser sha256 settings createDefaultUser db) secrets

structure Outcome where
  /-- `IntegrityError` is raised again, any other exception is only logged. -/
  raised : Option Failure
  db : Database
  secrets : List (String × String)

def tryCreateSingleTenant (createDefaultUser : Bool) (stored : Stored)
    (secrets : List (String × String)) : Outcome :=
  let result := transaction sha256 settings tenantId createDefaultUser stored.db secrets
  match result.1 >>= flush with
  | .ok db => ⟨none, db, result.2⟩
  | .error .integrityError => ⟨some .integrityError, stored.db, result.2⟩
  | .error _ => ⟨none, stored.db, result.2⟩

end

end SingleTenant
end Tenants
end KeepGateway
