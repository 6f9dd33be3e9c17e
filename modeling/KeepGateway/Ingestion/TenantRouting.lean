import KeepGateway.Ingestion.Endpoints

/-!
# Tenants of the alerts of an event

An event is published under one tenant.  The alerts it carries are published under their
own operators' tenants when these are all the same.
-/

namespace KeepGateway
namespace Ingestion

variable {α : Type}

/-- The tenant that owns the operator of an alert. -/
def ownerOf (operators : List Operator) (alert : Alert α) : String :=
  match alert.operator with
  | none => genericTenant
  | some name =>
      if name = "" then genericTenant
      else ((operators.find? fun o => o.name = name).map Operator.tenantId).getD genericTenant

/-- What a tenant is sent by a publish. -/
def sentTo (tenantId : String) (call : ProduceCall α) : List (Alert α) :=
  if call.tenantId = tenantId then call.event.alerts else []

/-- Every alert of the request is published under its owner, and every tenant is sent its
own alerts and no others. -/
structure KeepsTenantsApart (operators : List Operator) (request : IngestionRequest α) : Prop where
  published : forall alert, alert ∈ (produceCall operators request).event.alerts ->
    (produceCall operators request).tenantId = ownerOf operators alert
  sent : forall tenantId, sentTo tenantId (produceCall operators request) =
    request.event.alerts.filter fun alert => ownerOf operators alert = tenantId

/-- The alerts of an event have one owner. -/
def HasOneOwner (operators : List Operator) (event : IncomingEvent α) : Prop :=
  forall alert other, alert ∈ event.alerts -> other ∈ event.alerts ->
    ownerOf operators alert = ownerOf operators other

theorem resolve_eq (operators : List Operator) (event : IncomingEvent α) :
    resolveIngestionTenant operators event =
      match event.alerts with
      | [] => genericTenant
      | alert :: _ => ownerOf operators alert := by
  have hresolve : forall alert : Alert α, extractOperator event = alert.operator ->
      resolveIngestionTenant operators event = ownerOf operators alert := by
    intro alert hoperator
    unfold resolveIngestionTenant ownerOf getOperatorByName
    rw [hoperator]
    cases alert.operator with
    | none => rfl
    | some name =>
        rcases Classical.em (name = "") with hempty | hne
        · rw [hempty]
          rfl
        · simp only [if_neg hne]
          cases operators.find? fun o => o.name = name <;> rfl
  cases event with
  | single alert => exact hresolve alert rfl
  | list alerts =>
      cases alerts with
      | nil => rfl
      | cons alert rest => exact hresolve alert rfl
  | dict alert => exact hresolve alert rfl
  | raw => rfl

theorem produceCall_spec (operators : List Operator) (request : IngestionRequest α) :
    (produceCall operators request).event = request.event ∧
      (produceCall operators request).tenantId =
        resolveIngestionTenant operators request.event := by
  unfold produceCall
  split
  · exact ⟨rfl, rfl⟩
  · exact ⟨rfl, rfl⟩

theorem sentTo_of_hasOneOwner {operators : List Operator} {request : IngestionRequest α}
    (h : HasOneOwner operators request.event) (tenantId : String) :
    sentTo tenantId (produceCall operators request) =
      request.event.alerts.filter fun alert => ownerOf operators alert = tenantId := by
  rcases produceCall_spec operators request with ⟨hevent, htenant⟩
  unfold sentTo
  rw [hevent, htenant, resolve_eq]
  unfold HasOneOwner at h
  generalize request.event.alerts = alerts at h
  cases alerts with
  | nil => simp
  | cons first rest =>
      rcases Classical.em (ownerOf operators first = tenantId) with heq | hne
      · simp only
        rw [if_pos heq, List.filter_eq_self.mpr]
        intro alert hmem
        rw [h alert first hmem List.mem_cons_self]
        exact decide_eq_true heq
      · simp only
        rw [if_neg hne, List.filter_eq_nil_iff.mpr]
        intro alert hmem
        rw [h alert first hmem List.mem_cons_self]
        simpa using hne

/-- For either endpoint and every event: the tenants are kept apart exactly when the alerts
of the event have one owner. -/
theorem keepsTenantsApart_iff (operators : List Operator) (request : IngestionRequest α) :
    KeepsTenantsApart operators request <-> HasOneOwner operators request.event := by
  rcases produceCall_spec operators request with ⟨hevent, htenant⟩
  constructor
  · intro h alert other halert hother
    rw [← hevent] at halert hother
    rw [← h.published alert halert, h.published other hother]
  · intro h
    refine ⟨?_, sentTo_of_hasOneOwner h⟩
    intro alert halert
    rw [hevent] at halert
    rw [htenant, resolve_eq]
    cases halerts : request.event.alerts with
    | nil =>
        rw [halerts] at halert
        cases halert
    | cons first rest =>
        simp only
        exact h first alert (by rw [halerts]; exact List.mem_cons_self) halert

def twoOperators : List Operator := [⟨"noc-a", "tenant-a"⟩, ⟨"noc-b", "tenant-b"⟩]

/-- A batch of two alerts, of the operators of two tenants. -/
def mixedBatch : IngestionRequest String where
  event := .list [⟨some "noc-a", "disk full"⟩, ⟨some "noc-b", "link down"⟩]
  providerType := none
  providerId := none
  fingerprint := none
  apiKeyName := none
  traceId := "1"
  providerName := none
  broker := ⟨none, none, fun _ => .acknowledged, none, none⟩

/-- The second alert goes to the tenant of the first. -/
theorem mixedBatch_not_apart : ¬ KeepsTenantsApart twoOperators mixedBatch := by
  intro h
  have hsecond := h.published ⟨some "noc-b", "link down"⟩
    (List.mem_cons_of_mem _ List.mem_cons_self)
  revert hsecond
  decide

end Ingestion
end KeepGateway
