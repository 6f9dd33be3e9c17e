import KeepGateway.Operators.Grafana

/-!
# Provisioning of operators

`provision_operator` with its rollback, and the calls that create and delete operators.
-/

namespace KeepGateway
namespace Operators

structure Operator where
  id : Nat
  name : String
  group : String
  tenantId : String
  apikey : Nat
  deriving DecidableEq, Repr

/-- Kong, the operator table with the next id of a row, and Grafana. -/
structure World where
  kong : KongState
  operators : List Operator
  nextOperator : Nat
  grafana : GrafanaState
  deriving DecidableEq, Repr

inductive ProvisioningStep where
  | kongConsumer
  | kongApiKey
  | operatorRow
  | grafana
  deriving DecidableEq, Repr

/-- The name, the group or the key of the row is that of another row. -/
def conflicts (operator : Operator) (operators : List Operator) : Bool :=
  operators.any fun o =>
    o.name = operator.name || o.group = operator.group || o.apikey = operator.apikey

section Provisioning

variable (build : KongBuild) (config : GrafanaConfig) (failing : Option RequestSite)

/-- The row is committed and then read back. -/
def createRow (operatorName mailGroup tenantId : String) (apiKey : Nat) (w : World) :
    Except ProvisionError Operator × World :=
  let operator : Operator := ⟨w.nextOperator, operatorName, mailGroup, tenantId, apiKey⟩
  if failing = some .commit then (.error (.requestFailed .commit), w)
  else if conflicts operator w.operators then
    if failing = some .nameLookup then (.error (.requestFailed .nameLookup), w)
    else if w.operators.any fun o => o.name = operatorName then
      (.error (.operatorNameTaken operatorName), w)
    else (.error (.operatorGroupTaken mailGroup), w)
  else
    let w := { w with
      operators := w.operators ++ [operator], nextOperator := w.nextOperator + 1 }
    if failing = some .refresh then (.error (.requestFailed .refresh), w)
    else (.ok operator, w)

/-- One step of `_rollback_provisioning`. -/
def rollbackStep (operator : String) (w : World) : ProvisioningStep -> World
  | .grafana => { w with grafana := deleteGrafanaConnections config operator w.grafana }
  | .operatorRow =>
      { w with operators := w.operators.eraseP fun o => o.name = operator }
  | .kongApiKey => { w with kong := deleteApiKey build operator w.kong }
  | .kongConsumer => { w with kong := deleteConsumer build operator w.kong }

/-- `_rollback_provisioning`, for the steps in the order they were completed. -/
def rollbackProvisioning (operator : String) (completed : List ProvisioningStep) (w : World) :
    World :=
  completed.reverse.foldl (rollbackStep build config operator) w

def provisionOperator (operatorName mailGroup tenantId : String) (w : World) :
    Except ProvisionError Operator × World :=
  match ensureConsumer failing operatorName w.kong with
  | (.error e, kong) =>
      (.error e, rollbackProvisioning build config operatorName [] { w with kong := kong })
  | (.ok consumerId, kong) =>
      match syncKeyAuth build failing consumerId none kong with
      | (.error e, kong) =>
          (.error e, rollbackProvisioning build config operatorName [.kongConsumer]
            { w with kong := kong })
      | (.ok provisionedKey, kong) =>
          match createRow failing operatorName mailGroup tenantId provisionedKey
            { w with kong := kong } with
          | (.error e, w) =>
              (.error e, rollbackProvisioning build config operatorName
                [.kongConsumer, .kongApiKey] w)
          | (.ok operator, w) =>
              match ensureGrafanaConnections config failing operatorName provisionedKey
                w.grafana with
              | (.error e, grafana) =>
                  (.error e, rollbackProvisioning build config operatorName
                    [.kongConsumer, .kongApiKey, .operatorRow] { w with grafana := grafana })
              | (.ok (), grafana) => (.ok operator, { w with grafana := grafana })

end Provisioning

/-!
## Operators created and deleted
-/

inductive OperatorCall where
  | createOperator (group tenantId : String) (name : Option String)
  | deleteOperator (operatorId : Nat)
  deriving DecidableEq, Repr

/-- The name of a new operator, which defaults to its group. -/
def operatorName (group : String) (name : Option String) : String :=
  match name with
  | none => group
  | some "" => group
  | some name => name

def deleteOperator (operatorId : Nat) (w : World) : World :=
  { w with operators := w.operators.filter fun o => o.id ≠ operatorId }

/-- The state after a call in which every request succeeds. -/
def OperatorCall.apply (build : KongBuild) (config : GrafanaConfig) (w : World) :
    OperatorCall -> World
  | createOperator group tenantId name =>
      (provisionOperator build config none (operatorName group name) group tenantId w).2
  | deleteOperator operatorId => Operators.deleteOperator operatorId w

/-- A Kong that echoes keys and lists them in one page. -/
def onePageKong : KongBuild where
  echoesKey := true
  pages := fun keys => [keys]
  pages_flatten := fun keys => List.append_nil keys
  pages_ne_nil := fun _ => List.cons_ne_nil _ _

def namedContactPoints : GrafanaConfig where
  webhookUrl := "https://console/alerts"
  repeatInterval := "52w"
  contactPointUid := fun operator => "agw-" ++ operator

end Operators
end KeepGateway
