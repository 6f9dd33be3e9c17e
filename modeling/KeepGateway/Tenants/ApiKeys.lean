import KeepGateway.Tenants.SecretManager

/-!
# API keys

The keys of a tenant.  The secret of a key is kept by the secret manager, its hash in the
database.  `sha256` is the digest in hexadecimal, and each call is given the key that `uuid4`
makes for it and the faults that it meets.
-/

namespace KeepGateway
namespace Tenants

structure TenantApiKey where
  tenantId : String
  referenceId : String
  keyHash : String
  isSystem : Bool
  isDeleted : Bool
  systemDescription : Option String
  createdBy : String
  role : String
  deriving DecidableEq, Repr

/-- What the database raises. -/
inductive DatabaseError where
  | integrityError
  | operationalError
  deriving DecidableEq, Repr

inductive ApiKeyFailure where
  | apiKeyException (message : String)
  | apiException (e : ApiException)
  | databaseError (e : DatabaseError)
  deriving DecidableEq, Repr

structure Faults where
  api : ApiFaults
  commit : Option DatabaseError
  deriving DecidableEq, Repr

/-- The secrets, the key table, and the keys that the session added and did not commit.  What
each tenant last wrote as its SMTP settings is kept for comparison. -/
structure KeyStore where
  secrets : Secrets
  keys : List TenantApiKey
  added : List TenantApiKey
  smtpWritten : List (String × String)
  deriving DecidableEq, Repr

namespace KeyStore

/-- The keys that the session sees. -/
def rows (s : KeyStore) : List TenantApiKey := s.keys ++ s.added

/-- What the session sees once it is rolled back. -/
def rollback (s : KeyStore) : KeyStore := { s with added := [] }

end KeyStore

/-- The primary key and `unique_tenant_reference`. -/
def uniqueKeys (rows : List TenantApiKey) : Bool :=
  decide (rows.map TenantApiKey.keyHash).Nodup &&
    decide (rows.map fun row => (row.tenantId, row.referenceId)).Nodup

/-- `session.commit` -/
def commitSession (fault : Option DatabaseError) (rows : List TenantApiKey) (s : KeyStore) :
    Except DatabaseError KeyStore :=
  if uniqueKeys rows then
    match fault with
    | some e => .error e
    | none => .ok { s with keys := rows, added := [] }
  else .error .integrityError

/-- The key of a tenant by its reference; the query flushes what was added. -/
def selectKey (tenantId uniqueApiKeyId : String) (s : KeyStore) :
    Except DatabaseError (Option TenantApiKey) :=
  if uniqueKeys s.rows then
    .ok (s.rows.find? fun row => row.referenceId == uniqueApiKeyId && row.tenantId == tenantId)
  else .error .integrityError

/-- The name that the secret of a key is kept under. -/
def keySecretName (tenantId uniqueApiKeyId : String) : String := tenantId ++ "-" ++ uniqueApiKeyId

def smtpSecretName (tenantId : String) : String := tenantId ++ "_smtp"

section Calls

variable (sha256 lower : String -> String)

def newInstallationApiKey (tenantId uniqueApiKeyId : String) (isSystem : Bool)
    (createdBy role : String) (systemDescription : Option String) (apiKey : String) :
    TenantApiKey where
  tenantId := tenantId
  referenceId := uniqueApiKeyId
  keyHash := sha256 apiKey
  isSystem := isSystem
  isDeleted := false
  systemDescription := systemDescription
  createdBy := createdBy
  role := role

/-- The keys with the hash of one of them updated. -/
def rekeyed (tenantId uniqueApiKeyId apiKey : String) (rows : List TenantApiKey) :
    List TenantApiKey :=
  rows.map fun row =>
    if row.referenceId == uniqueApiKeyId && row.tenantId == tenantId then
      { row with keyHash := sha256 apiKey }
    else row

/-- `update_api_key_internal`; nothing stands for `False`. -/
def updateApiKeyInternal (tenantId uniqueApiKeyId apiKey : String) (faults : Faults)
    (s : KeyStore) : Except ApiKeyFailure (Option String) × KeyStore :=
  match selectKey tenantId uniqueApiKeyId s with
  | .error e => (.error (.databaseError e), s)
  | .ok none => (.ok none, s)
  | .ok (some _) =>
      match writeSecret lower faults.api (keySecretName tenantId uniqueApiKeyId) apiKey
          s.secrets with
      | .error e => (.error (.apiException e), s)
      | .ok secrets =>
          let s := { s with secrets := secrets }
          match commitSession faults.commit (rekeyed sha256 tenantId uniqueApiKeyId apiKey s.rows)
              s with
          | .error e => (.error (.databaseError e), s)
          | .ok s => (.ok (some apiKey), s)

/-- `create_api_key` -/
def createApiKey (tenantId uniqueApiKeyId : String) (isSystem : Bool) (createdBy role : String)
    (commit : Bool) (systemDescription : Option String) (apiKey : String) (faults : Faults)
    (s : KeyStore) : Except ApiKeyFailure String × KeyStore :=
  match writeSecret lower faults.api (keySecretName tenantId uniqueApiKeyId) apiKey s.secrets with
  | .error _ => (.error (.apiKeyException "Error creating API key."), s)
  | .ok secrets =>
      let s := { s with
        secrets := secrets
        added := s.added ++ [newInstallationApiKey sha256 tenantId uniqueApiKeyId isSystem createdBy
          role systemDescription apiKey] }
      if commit then
        match commitSession faults.commit s.rows s with
        | .error .integrityError => (.error (.apiKeyException "API key already exists."), s)
        | .error _ => (.error (.apiKeyException "Error creating API key."), s)
        | .ok s => (.ok apiKey, s)
      else (.ok apiKey, s)

/-- `get_or_create_api_key` -/
def getOrCreateApiKey (tenantId createdBy uniqueApiKeyId : String)
    (systemDescription : Option String) (apiKey : String) (faults : Faults) (s : KeyStore) :
    Except ApiKeyFailure String × KeyStore :=
  match selectKey tenantId uniqueApiKeyId s with
  | .error e => (.error (.databaseError e), s)
  | .ok none =>
      let role := if uniqueApiKeyId = "webhook" then "webhook" else "admin"
      createApiKey sha256 lower tenantId uniqueApiKeyId true createdBy role true systemDescription
        apiKey faults s
  | .ok (some _) =>
      match readSecret lower faults.api (keySecretName tenantId uniqueApiKeyId) s.secrets with
      | .error e => (.error (.apiException e), s)
      | .ok secret => (.ok secret, s)

/-- `update_smtp_settings`, given the settings as text. -/
def updateSmtpSettings (tenantId settings : String) (faults : Faults) (s : KeyStore) :
    Except ApiKeyFailure Unit × KeyStore :=
  match writeSecret lower faults.api (smtpSecretName tenantId) settings s.secrets with
  | .error e => (.error (.apiException e), s)
  | .ok secrets =>
      (.ok (), { s with
        secrets := secrets
        smtpWritten := Dict.set tenantId settings s.smtpWritten })

/-!
## Histories
-/

inductive KeyCall where
  | create (tenantId uniqueApiKeyId : String) (isSystem : Bool) (createdBy role : String)
      (commit : Bool) (systemDescription : Option String) (apiKey : String) (faults : Faults)
  | update (tenantId uniqueApiKeyId apiKey : String) (faults : Faults)
  | getOrCreate (tenantId createdBy uniqueApiKeyId : String) (systemDescription : Option String)
      (apiKey : String) (faults : Faults)
  | writeSmtp (tenantId settings : String) (faults : Faults)
  deriving DecidableEq, Repr

/-- The session is rolled back after a call that fails. -/
def settle {α : Type} (answer : Except ApiKeyFailure α × KeyStore) : KeyStore :=
  match answer.1 with
  | .ok _ => answer.2
  | .error _ => answer.2.rollback

def KeyStore.call (s : KeyStore) : KeyCall -> KeyStore
  | .create tenantId uniqueApiKeyId isSystem createdBy role commit systemDescription apiKey faults =>
      settle (createApiKey sha256 lower tenantId uniqueApiKeyId isSystem createdBy role commit
        systemDescription apiKey faults s)
  | .update tenantId uniqueApiKeyId apiKey faults =>
      settle (updateApiKeyInternal sha256 lower tenantId uniqueApiKeyId apiKey faults s)
  | .getOrCreate tenantId createdBy uniqueApiKeyId systemDescription apiKey faults =>
      settle (getOrCreateApiKey sha256 lower tenantId createdBy uniqueApiKeyId systemDescription
        apiKey faults s)
  | .writeSmtp tenantId settings faults =>
      settle (updateSmtpSettings lower tenantId settings faults s)

end Calls

end Tenants
end KeepGateway
