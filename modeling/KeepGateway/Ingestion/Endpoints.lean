import KeepGateway.Lib.Dict
import KeepGateway.Producers.KafkaProducer

/-!
# The ingestion endpoints

`receive_generic_event` and `receive_event`: the tenant an event is routed to, the publish,
the answer, and the counters.
-/

namespace KeepGateway
namespace Ingestion

open Producers (Broker ProduceResult PyException resultFromTaskName)

/-!
## Events and their tenant
-/

/-- An alert of an event: its routing key, and the rest of it. -/
structure Alert (α : Type) where
  operator : Option String
  content : α
  deriving DecidableEq, Repr

/-- An `AlertDto`, a list, a raw dictionary, or a body that is none of them. -/
inductive IncomingEvent (α : Type) where
  | single (alert : Alert α)
  | list (alerts : List (Alert α))
  | dict (alert : Alert α)
  | raw
  deriving DecidableEq, Repr

/-- The alerts that the event carries. -/
def IncomingEvent.alerts {α : Type} : IncomingEvent α -> List (Alert α)
  | single alert => [alert]
  | list alerts => alerts
  | dict alert => [alert]
  | raw => []

structure Operator where
  name : String
  tenantId : String
  deriving DecidableEq, Repr

/-- `GENERIC_TENANT_UUID` -/
def genericTenant : String := "keep"

/-- `get_operator_by_name` -/
def getOperatorByName (operators : List Operator) (name : String) : Option Operator :=
  operators.find? fun o => o.name = name

/-- `_extract_operator`; for a list it is the first alert's. -/
def extractOperator {α : Type} : IncomingEvent α -> Option String
  | .single alert => alert.operator
  | .list [] => none
  | .list (alert :: _) => alert.operator
  | .dict alert => alert.operator
  | .raw => none

/-- `_resolve_ingestion_tenant` -/
def resolveIngestionTenant {α : Type} (operators : List Operator) (event : IncomingEvent α) :
    String :=
  match extractOperator event with
  | none => genericTenant
  | some "" => genericTenant
  | some name =>
      match getOperatorByName operators name with
      | none => genericTenant
      | some operator => operator.tenantId

/-!
## Counters and answers
-/

/-- A counter by the values of its labels. -/
abbrev Counter := List ((String × String) × Nat)

/-- `labels(...).inc()` -/
def inc (labels : String × String) (counter : Counter) : Counter :=
  Dict.set labels ((counter.lookup labels).getD 0 + 1) counter

structure Metrics where
  alertIngestionTotal : Counter
  alertIngestionErrorTotal : Counter
  deriving DecidableEq, Repr

structure JSONResponse where
  statusCode : Nat
  headers : List (String × String)
  content : List (String × String)
  deriving DecidableEq, Repr

structure Config where
  /-- `KEEP_ALERT_DLQ_ACCEPT` -/
  dlqAccept : Bool
  /-- `KEEP_ALERT_RETRY_AFTER` -/
  retryAfter : String
  maxRetries : Nat

section Answers

variable (config : Config)

def retryLater (detail : String) (body : List (String × String)) : JSONResponse where
  statusCode := 503
  headers := [("Retry-After", config.retryAfter)]
  content := body ++ [("detail", detail)]

def ingestionResponse (taskName : Option String) (source : String) (metrics : Metrics) :
    JSONResponse × Metrics :=
  let result := resultFromTaskName taskName
  let name := match taskName with
    | none => "async-task"
    | some "" => "async-task"
    | some name => name
  let body := [("task_name", name), ("sink", result.value)]
  match result with
  | .main =>
      (⟨202, [], body⟩,
        { metrics with
          alertIngestionTotal := inc (source, "success") metrics.alertIngestionTotal })
  | .dlq =>
      let metrics :=
        { metrics with alertIngestionTotal := inc (source, "dlq") metrics.alertIngestionTotal }
      if config.dlqAccept then (⟨202, [], body⟩, metrics)
      else
        (retryLater config
          ("Alert could not be published to the ingestion topic and was written to " ++
            "the dead-letter topic; it will not be processed. Please retry.") body, metrics)

def publishFailedResponse (e : PyException) (source traceId : String) (metrics : Metrics) :
    JSONResponse × Metrics :=
  (retryLater config "Alert could not be published to the ingestion topic. Please retry."
      [("trace_id", traceId)],
    { metrics with
      alertIngestionErrorTotal := inc (source, e.typeName) metrics.alertIngestionErrorTotal })

/-- `catch_exception`, the handler of what no endpoint handles. -/
def catchException (e : PyException) (traceId : String) : JSONResponse where
  statusCode := 500
  headers := []
  content := [("message", "An internal server error occurred."), ("trace_id", traceId),
    ("error_msg", e.typeName)]

end Answers

/-!
## Endpoints
-/

/-- A request that an endpoint accepts, and what the broker does for it.  The provider type
of the path is there for `receive_event`. -/
structure IngestionRequest (α : Type) where
  event : IncomingEvent α
  providerType : Option String
  providerId : Option String
  fingerprint : Option String
  apiKeyName : Option String
  traceId : String
  providerName : Option String
  broker : Broker

/-- What `produce` is called with. -/
structure ProduceCall (α : Type) where
  event : IncomingEvent α
  tenantId : String
  providerType : Option String
  providerId : Option String
  fingerprint : Option String
  apiKeyName : Option String
  traceId : String
  providerName : Option String

section Endpoints

variable {α : Type} (operators : List Operator) (config : Config)

/-- The call of `produce` in `receive_generic_event`. -/
def genericCall (request : IngestionRequest α) : ProduceCall α where
  event := request.event
  tenantId := resolveIngestionTenant operators request.event
  providerType := none
  providerId := request.providerId
  fingerprint := request.fingerprint
  apiKeyName := request.apiKeyName
  traceId := request.traceId
  providerName := none

/-- The call of `produce` in `receive_event`. -/
def eventCall (request : IngestionRequest α) (providerType : String) : ProduceCall α where
  event := request.event
  tenantId := resolveIngestionTenant operators request.event
  providerType := some providerType
  providerId := request.providerId
  fingerprint := request.fingerprint
  apiKeyName := request.apiKeyName
  traceId := request.traceId
  providerName := request.providerName

def produceCall (request : IngestionRequest α) : ProduceCall α :=
  match request.providerType with
  | none => genericCall operators request
  | some providerType => eventCall operators request providerType

/-- `receive_generic_event`, from the publish on. -/
def receiveGenericEvent (request : IngestionRequest α) (metrics : Metrics) :
    Except PyException JSONResponse × Metrics :=
  match request.broker.produce config.maxRetries with
  | .error e =>
      let answer := publishFailedResponse config e "generic" request.traceId metrics
      (.ok answer.1, answer.2)
  | .ok taskName =>
      let answer := ingestionResponse config (some taskName) "generic" metrics
      (.ok answer.1, answer.2)

/-- `receive_event`, from the publish on. -/
def receiveEvent (providerType : String) (request : IngestionRequest α) (metrics : Metrics) :
    Except PyException JSONResponse × Metrics :=
  match request.broker.produce config.maxRetries with
  | .error e => (.error e, metrics)
  | .ok taskName =>
      let counted :=
        { metrics with
          alertIngestionTotal := inc (providerType, "success") metrics.alertIngestionTotal }
      let taskName := if taskName = "" then "async-task" else taskName
      let answer := ingestionResponse config (some taskName) providerType counted
      (.ok answer.1, answer.2)

/-- The answer to a request, and the counters after it. -/
def answer (request : IngestionRequest α) (metrics : Metrics) : JSONResponse × Metrics :=
  let received :=
    match request.providerType with
    | none => receiveGenericEvent config request metrics
    | some providerType => receiveEvent config providerType request metrics
  match received with
  | (.ok response, metrics) => (response, metrics)
  | (.error e, metrics) => (catchException e request.traceId, metrics)

end Endpoints

end Ingestion
end KeepGateway
