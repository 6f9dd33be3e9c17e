import Mathlib.Data.List.Basic

/-!
# Kong

`KongIntegration`: a consumer for each operator, and its key.  A call names the one request
of it that fails, if any; a request that fails changes nothing.
-/

namespace KeepGateway
namespace Operators

/-- The requests of a provisioning.  The keys of a consumer may be replaced twice. -/
inductive RequestSite where
  | consumerGet
  | consumerPost
  | consumerRefetch
  | keysList (round page : Nat)
  | keyDelete (round keyId : Nat)
  | keyPost (round : Nat)
  | commit
  | nameLookup
  | refresh
  | contactPointsGet
  | contactPointPut
  | contactPointPost
  | policiesGet
  | policiesPut
  deriving DecidableEq, Repr

inductive ProvisionError where
  | requestFailed (site : RequestSite)
  | notFound
  | operatorNameTaken (name : String)
  | operatorGroupTaken (group : String)
  | sendAlertMissing
  deriving DecidableEq, Repr

structure KeyAuth where
  id : Nat
  key : Nat
  deriving DecidableEq, Repr

structure Consumer where
  id : Nat
  username : String
  keys : List KeyAuth
  deriving DecidableEq, Repr

/-- The consumers, and the next id or secret that is handed out. -/
structure KongState where
  consumers : List Consumer
  next : Nat
  deriving DecidableEq, Repr

/-- A consumer in the path of a request. -/
inductive ConsumerRef where
  | id (n : Nat)
  | username (name : String)
  deriving DecidableEq, Repr

def ConsumerRef.refersTo : ConsumerRef -> Consumer -> Bool
  | id n, c => c.id = n
  | username name, c => c.username = name

/-- What differs between Kong builds: whether a key is echoed when it is created, and the
pages in which keys are listed. -/
structure KongBuild where
  echoesKey : Bool
  pages : List KeyAuth -> List (List KeyAuth)
  pages_flatten : forall keys, (pages keys).flatten = keys
  pages_ne_nil : forall keys, pages keys ≠ []

namespace KongState

variable (s : KongState)

def consumer? (ref : ConsumerRef) : Option Consumer := s.consumers.find? ref.refersTo

def modifyKeys (ref : ConsumerRef) (f : List KeyAuth -> List KeyAuth) : KongState :=
  { s with consumers := s.consumers.map fun c =>
      if ref.refersTo c then { c with keys := f c.keys } else c }

end KongState

section Kong

variable (build : KongBuild) (failing : Option RequestSite)

def createConsumerOrFetchExisting (operator : String) (s : KongState) :
    Except ProvisionError Nat × KongState :=
  if failing = some .consumerPost then (.error (.requestFailed .consumerPost), s)
  else
    match s.consumer? (.username operator) with
    | some consumer =>
        if failing = some .consumerRefetch then (.error (.requestFailed .consumerRefetch), s)
        else (.ok consumer.id, s)
    | none =>
        (.ok s.next,
          { consumers := s.consumers ++ [⟨s.next, operator, []⟩], next := s.next + 1 })

def ensureConsumer (operator : String) (s : KongState) :
    Except ProvisionError Nat × KongState :=
  if failing = some .consumerGet then (.error (.requestFailed .consumerGet), s)
  else
    match s.consumer? (.username operator) with
    | some consumer => (.ok consumer.id, s)
    | none => createConsumerOrFetchExisting failing operator s

/-- The keys of one page are deleted. -/
def deleteKeys (round : Nat) (ref : ConsumerRef) :
    List KeyAuth -> KongState -> Except ProvisionError Unit × KongState
  | [], s => (.ok (), s)
  | cred :: rest, s =>
      if failing = some (.keyDelete round cred.id) then
        (.error (.requestFailed (.keyDelete round cred.id)), s)
      else
        deleteKeys round ref rest
          (s.modifyKeys ref fun keys => keys.filter fun k => k.id ≠ cred.id)

/-- The pages from one on are listed, and the keys of each deleted. -/
def deletePages (round : Nat) (ref : ConsumerRef) :
    Nat -> List (List KeyAuth) -> KongState -> Except ProvisionError Unit × KongState
  | _, [], s => (.ok (), s)
  | page, data :: rest, s =>
      if failing = some (.keysList round page) then
        (.error (.requestFailed (.keysList round page)), s)
      else
        match deleteKeys failing round ref data s with
        | (.ok (), s) => deletePages round ref (page + 1) rest s
        | (.error e, s) => (.error e, s)

def deleteAllConsumerKeyAuths (round : Nat) (ref : ConsumerRef) (s : KongState) :
    Except ProvisionError Unit × KongState :=
  match s.consumer? ref with
  | none => (.error .notFound, s)
  | some consumer => deletePages failing round ref 0 (build.pages consumer.keys) s

/-- The key that is posted, or one that Kong generates, and what the answer says of it. -/
def postKeyAuth (round : Nat) (ref : ConsumerRef) (apiKey : Option Nat) (s : KongState) :
    Except ProvisionError (Option Nat) × KongState :=
  if failing = some (.keyPost round) then (.error (.requestFailed (.keyPost round)), s)
  else
    match s.consumer? ref with
    | none => (.error .notFound, s)
    | some _ =>
        let key := apiKey.getD (s.next + 1)
        let s := s.modifyKeys ref fun keys => keys ++ [⟨s.next, key⟩]
        (.ok (if build.echoesKey then some key else none), { s with next := s.next + 2 })

/-- All keys are deleted, and one is posted. -/
def replaceKeys (round : Nat) (ref : ConsumerRef) (apiKey : Option Nat) (s : KongState) :
    Except ProvisionError (Option Nat) × KongState :=
  match deleteAllConsumerKeyAuths build failing round ref s with
  | (.ok (), s) => postKeyAuth build failing round ref apiKey s
  | (.error e, s) => (.error e, s)

def syncKeyAuth (consumerId : Nat) (apiKey : Option Nat) (s : KongState) :
    Except ProvisionError Nat × KongState :=
  match replaceKeys build failing 0 (.id consumerId) apiKey s with
  | (.error e, s) => (.error e, s)
  | (.ok (some kongKey), s) => (.ok kongKey, s)
  | (.ok none, s) =>
      match apiKey with
      | some apiKey => (.ok apiKey, s)
      | none =>
          let explicit := s.next
          let s := { s with next := s.next + 1 }
          match replaceKeys build failing 1 (.id consumerId) (some explicit) s with
          | (.error e, s) => (.error e, s)
          | (.ok kongKey, s) => (.ok (kongKey.getD explicit), s)

/-- `delete_api_key`; the requests of a rollback do not fail. -/
def deleteApiKey (operator : String) (s : KongState) : KongState :=
  (deleteAllConsumerKeyAuths build none 0 (.username operator) s).2

/-- `delete_consumer`; it stops when the keys of the consumer cannot be listed. -/
def deleteConsumer (operator : String) (s : KongState) : KongState :=
  match deleteAllConsumerKeyAuths build none 0 (.username operator) s with
  | (.error _, s) => s
  | (.ok (), s) =>
      { s with consumers := s.consumers.filter fun c => c.username ≠ operator }

end Kong

end Operators
end KeepGateway
