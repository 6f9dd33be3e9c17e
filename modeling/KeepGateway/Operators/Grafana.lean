import KeepGateway.Operators.Kong

/-!
# Grafana

`GrafanaIntegration`: a contact point for each operator, and a sub-policy that routes to it.
-/

namespace KeepGateway
namespace Operators

structure ContactPointSettings where
  url : Option String
  httpMethod : Option String
  authorizationScheme : Option String
  authorizationCredentials : Option Nat
  deriving DecidableEq, Repr

structure ContactPoint where
  uid : String
  name : String
  type : String
  settings : Option ContactPointSettings
  disableResolveMessage : Bool
  deriving DecidableEq, Repr

/-- A route below a top-level route; `rest` is what else it has. -/
structure SubPolicy where
  receiver : String
  objectMatchers : List (List String)
  continues : Bool
  repeatInterval : String
  groupBy : List String
  rest : String
  deriving DecidableEq, Repr

/-- A top-level route; `rest` is what else it has. -/
structure Route where
  objectMatchers : Option (List (List String))
  routes : Option (List SubPolicy)
  rest : String
  deriving DecidableEq, Repr

structure PolicyTree where
  routes : Option (List Route)
  rest : String
  deriving DecidableEq, Repr

structure GrafanaState where
  contactPoints : List ContactPoint
  policyTree : PolicyTree
  deriving DecidableEq, Repr

structure GrafanaConfig where
  /-- `ALERTS_TO_CONSOLE_URL` -/
  webhookUrl : String
  /-- `GRAFANA_POLICY_REPEAT_INTERVAL` -/
  repeatInterval : String
  /-- `_contact_point_uid`, which hashes the name. -/
  contactPointUid : String -> String

def contactPointName (operator : String) : String := "Appchi - " ++ operator

section Grafana

variable (config : GrafanaConfig) (failing : Option RequestSite)

def buildSubPolicyData (contactPointName : String) : SubPolicy where
  receiver := contactPointName
  objectMatchers := [[contactPointName, "=", "true"]]
  continues := true
  repeatInterval := config.repeatInterval
  groupBy := ["..."]
  rest := ""

def buildContactPointPayload (operator : String) (apiKey : Nat) : ContactPoint where
  uid := config.contactPointUid operator
  name := contactPointName operator
  type := "webhook"
  settings := some ⟨some config.webhookUrl, some "POST", some " ", some apiKey⟩
  disableResolveMessage := false

def findContactPointByUid (contactPoints : List ContactPoint) (uid : String) :
    Option ContactPoint :=
  contactPoints.find? fun cp => cp.uid = uid

/-- `upper`, for letters that ASCII letters come out of. -/
def upper : Char -> List Char
  | 'ſ' => ['S']
  | 'ﬅ' => ['S', 'T']
  | 'ﬆ' => ['S', 'T']
  | c => [c.toUpper]

/-- The credentials are not looked at. -/
def webhookContactPointUnchanged (existing : ContactPoint) : Bool :=
  let settings := existing.settings.getD ⟨none, none, none, none⟩
  let method := settings.httpMethod.getD ""
  let method := if method = "" then "POST" else method
  existing.type = "webhook" && settings.url = some config.webhookUrl &&
    method.toList.flatMap upper = "POST".toList

def provisionContactPoint (operator : String) (apiKey : Nat) (s : GrafanaState) :
    Except ProvisionError Unit × GrafanaState :=
  if failing = some .contactPointsGet then (.error (.requestFailed .contactPointsGet), s)
  else
    let payload := buildContactPointPayload config operator apiKey
    match findContactPointByUid s.contactPoints payload.uid with
    | some existing =>
        if webhookContactPointUnchanged config existing then (.ok (), s)
        else if failing = some .contactPointPut then
          (.error (.requestFailed .contactPointPut), s)
        else
          (.ok (), { s with contactPoints := s.contactPoints.map fun cp =>
            if cp.uid = payload.uid then payload else cp })
    | none =>
        if failing = some .contactPointPost then (.error (.requestFailed .contactPointPost), s)
        else (.ok (), { s with contactPoints := s.contactPoints ++ [payload] })

def isSendAlert (route : Route) : Bool :=
  (route.objectMatchers.getD []).contains ["Send-Alert", "=", "true"]

def findPolicyNode (policyTree : PolicyTree) : Option Route :=
  (policyTree.routes.getD []).find? isSendAlert

def addSubPolicyToPolicyRoutes (contactPointName : String) (policyRoutes : Route) : Route :=
  { policyRoutes with
    routes := some (policyRoutes.routes.getD [] ++ [buildSubPolicyData config contactPointName]) }

/-- Every route with the matcher is given the new list. -/
def editPolicyTree (newRoutesList : List SubPolicy) (policyTree : PolicyTree) : PolicyTree :=
  { policyTree with
    routes := policyTree.routes.map (List.map fun route =>
      if isSendAlert route then { route with routes := some newRoutesList } else route) }

def provisionSubPolicy (contactPointName : String) (s : GrafanaState) :
    Except ProvisionError Unit × GrafanaState :=
  if failing = some .policiesGet then (.error (.requestFailed .policiesGet), s)
  else
    match findPolicyNode s.policyTree with
    | none => (.error .sendAlertMissing, s)
    | some policyRoutes =>
        let edited := addSubPolicyToPolicyRoutes config contactPointName policyRoutes
        if failing = some .policiesPut then (.error (.requestFailed .policiesPut), s)
        else
          (.ok (), { s with
            policyTree := editPolicyTree (edited.routes.getD []) s.policyTree })

def ensureGrafanaConnections (operator : String) (apiKey : Nat) (s : GrafanaState) :
    Except ProvisionError Unit × GrafanaState :=
  match provisionContactPoint config failing operator apiKey s with
  | (.error e, s) => (.error e, s)
  | (.ok (), s) => provisionSubPolicy config failing (contactPointName operator) s

/-- `delete_grafana_connections`; the sub-policy stays. -/
def deleteGrafanaConnections (operator : String) (s : GrafanaState) : GrafanaState :=
  { s with contactPoints :=
      s.contactPoints.filter fun cp => cp.uid ≠ config.contactPointUid operator }

end Grafana

end Operators
end KeepGateway
