import KeepGateway.Lib.Dict

/-!
# Secrets in Kubernetes

The secret manager that keeps secrets as resources of a namespace.  The name of a secret
becomes the name of a resource, where it has no underscores and no capital letters; `lower` is
`str.lower`.
-/

namespace KeepGateway
namespace Tenants

/-- The secrets of the namespace by their resource names.  The encoding of a value, which
reading undoes, is left out. -/
abbrev Secrets : Type := List (String × String)

/-- `ApiException` -/
structure ApiException where
  status : Nat
  deriving DecidableEq, Repr

/-- The statuses of the failures that are not for the state of the namespace. -/
structure ApiFaults where
  create : Option Nat
  patch : Option Nat
  read : Option Nat
  deriving DecidableEq, Repr

def createNamespacedSecret (fault : Option Nat) (name value : String) (secrets : Secrets) :
    Except ApiException Secrets :=
  match fault with
  | some status => .error ⟨status⟩
  | none =>
      match secrets.lookup name with
      | some _ => .error ⟨409⟩
      | none => .ok (Dict.set name value secrets)

def patchNamespacedSecret (fault : Option Nat) (name value : String) (secrets : Secrets) :
    Except ApiException Secrets :=
  match fault with
  | some status => .error ⟨status⟩
  | none =>
      match secrets.lookup name with
      | some _ => .ok (Dict.set name value secrets)
      | none => .error ⟨404⟩

def readNamespacedSecret (fault : Option Nat) (name : String) (secrets : Secrets) :
    Except ApiException String :=
  match fault with
  | some status => .error ⟨status⟩
  | none =>
      match secrets.lookup name with
      | some value => .ok value
      | none => .error ⟨404⟩

section Names

variable (lower : String -> String)

/-- `secret_name.replace("_", "-").lower()` -/
def resourceName (secretName : String) : String :=
  lower (String.ofList (secretName.toList.map fun c => if c = '_' then '-' else c))

/-- `write_secret` -/
def writeSecret (faults : ApiFaults) (secretName secretValue : String) (secrets : Secrets) :
    Except ApiException Secrets :=
  let name := resourceName lower secretName
  match createNamespacedSecret faults.create name secretValue secrets with
  | .ok secrets => .ok secrets
  | .error e =>
      -- the secret exists
      if e.status = 409 then patchNamespacedSecret faults.patch name secretValue secrets
      else .error e

/-- `read_secret` -/
def readSecret (faults : ApiFaults) (secretName : String) (secrets : Secrets) :
    Except ApiException String :=
  readNamespacedSecret faults.read (resourceName lower secretName) secrets

variable {lower}

/-- A write that succeeds puts the value under the name of the resource. -/
theorem writeSecret_eq_ok {faults : ApiFaults} {secretName secretValue : String}
    {secrets secrets' : Secrets}
    (h : writeSecret lower faults secretName secretValue secrets = .ok secrets') :
    secrets' = Dict.set (resourceName lower secretName) secretValue secrets := by
  unfold writeSecret createNamespacedSecret patchNamespacedSecret at h
  simp only at h
  split at h
  · rename_i hcreate
    split at hcreate
    · cases hcreate
    · split at hcreate
      · cases hcreate
      · cases hcreate
        cases h
        rfl
  · split at h
    · split at h
      · cases h
      · split at h
        · cases h
          rfl
        · cases h
    · cases h

theorem readSecret_eq_ok {faults : ApiFaults} (hread : faults.read = none)
    {secretName value : String} {secrets : Secrets} :
    readSecret lower faults secretName secrets = .ok value <->
      secrets.lookup (resourceName lower secretName) = some value := by
  unfold readSecret readNamespacedSecret
  rw [hread]
  simp only
  cases secrets.lookup (resourceName lower secretName) with
  | none => exact ⟨fun h => (by cases h), fun h => (by cases h)⟩
  | some found => rw [Except.ok.injEq, Option.some.injEq]

end Names

end Tenants
end KeepGateway
