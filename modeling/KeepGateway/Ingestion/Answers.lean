import Mathlib.Algebra.GroupWithZero.Nat
import KeepGateway.Ingestion.Endpoints

/-!
# Truthful answers

What a sender is answered, and what the counters show, for sequences of requests to the
two endpoints.
-/

namespace KeepGateway
namespace Ingestion

open Producers (Broker ProduceResult resultFromTaskName mainTaskName dlqTaskName)

variable {α : Type}

/-!
## Sums over a counter
-/

/-- The sum of a counter over the labels that satisfy `p`. -/
def totalOver (p : String × String -> Bool) (counter : Counter) : Nat :=
  ((counter.filter fun entry => p entry.1).map Prod.snd).sum

/-- The sum over all labels. -/
def total : Counter -> Nat := totalOver fun _ => true

/-- The sum over the labels of a status. -/
def totalOf (status : String) : Counter -> Nat := totalOver fun labels => labels.2 = status

theorem totalOver_cons (p : String × String -> Bool) (labels : String × String) (value : Nat)
    (counter : Counter) :
    totalOver p ((labels, value) :: counter) =
      (if p labels then value else 0) + totalOver p counter := by
  unfold totalOver
  cases hp : p labels with
  | true => simp [hp]
  | false => simp [hp]

theorem lookup_labels_cons (key labels : String × String) (value : Nat) (counter : Counter) :
    List.lookup labels ((key, value) :: counter) =
      if key = labels then some value else counter.lookup labels := by
  rw [List.lookup_cons]
  rcases Classical.em (key = labels) with heq | hne
  · rw [if_pos heq, heq, beq_self_eq_true]
  · rw [if_neg hne, beq_eq_false_iff_ne.mpr (Ne.symm hne)]

theorem totalOver_inc (p : String × String -> Bool) (labels : String × String)
    (counter : Counter) :
    totalOver p (inc labels counter) = totalOver p counter + if p labels then 1 else 0 := by
  induction counter with
  | nil =>
      show totalOver p [(labels, 1)] = _
      rw [totalOver_cons]
      exact Nat.add_comm _ _
  | cons entry rest ih =>
      rcases entry with ⟨key, value⟩
      unfold inc at ih ⊢
      rw [lookup_labels_cons, totalOver_cons]
      rcases Classical.em (key = labels) with heq | hne
      · rw [heq, if_pos rfl, Dict.set, if_pos rfl, totalOver_cons]
        cases p labels with
        | true =>
            simp only [if_true, Option.getD_some]
            omega
        | false => simp
      · rw [if_neg hne, Dict.set, if_neg hne, totalOver_cons, ih]
        omega

theorem total_inc (labels : String × String) (counter : Counter) :
    total (inc labels counter) = total counter + 1 := by
  unfold total
  rw [totalOver_inc, if_pos rfl]

theorem totalOf_inc (status source : String) (other : String) (counter : Counter) :
    totalOf status (inc (source, other) counter) =
      totalOf status counter + if other = status then 1 else 0 := by
  unfold totalOf
  rw [totalOver_inc]
  simp only [decide_eq_true_eq]

/-!
## The law
-/

section Law

variable (config : Config)

/-- The main topic acknowledges the event of the request. -/
def Acknowledged (request : IngestionRequest α) : Prop :=
  request.broker.MainAcknowledges config.maxRetries

/-- Some topic takes the event of the request. -/
def ReachesTopic (request : IngestionRequest α) : Prop :=
  Acknowledged config request ∨
    request.broker.Diverts config.maxRetries ∧ request.broker.DlqTakes

/-- Accepted when the main topic acknowledged the event, otherwise to be sent again. -/
structure TruthfulAnswer (request : IngestionRequest α) (response : JSONResponse) : Prop where
  accepted : Acknowledged config request -> response.statusCode = 202
  rejected : ¬ Acknowledged config request ->
    response.statusCode = 503 ∧ exists after, ("Retry-After", after) ∈ response.headers

/-- The answers to the requests in order, and the counters after them. -/
def serve : List (IngestionRequest α) -> Metrics -> List JSONResponse × Metrics
  | [], metrics => ([], metrics)
  | request :: rest, metrics =>
      let answered := answer config request metrics
      let served := serve rest answered.2
      (answered.1 :: served.1, served.2)

open Classical in
/-- How many of the events a predicate holds of. -/
noncomputable def countOf (p : IngestionRequest α -> Prop) (requests : List (IngestionRequest α)) :
    Nat :=
  requests.countP fun request => decide (p request)

structure AnswersTruthfully (requests : List (IngestionRequest α)) (metrics : Metrics) :
    Prop where
  answered : List.Forall₂ (TruthfulAnswer config) requests (serve config requests metrics).1
  reached : total (serve config requests metrics).2.alertIngestionTotal =
    total metrics.alertIngestionTotal + countOf (ReachesTopic config) requests
  succeeded : totalOf "success" (serve config requests metrics).2.alertIngestionTotal =
    totalOf "success" metrics.alertIngestionTotal + countOf (Acknowledged config) requests

end Law

theorem countOf_cons_pos {p : IngestionRequest α -> Prop} {request : IngestionRequest α}
    (h : p request) (rest : List (IngestionRequest α)) :
    countOf p (request :: rest) = countOf p rest + 1 :=
  List.countP_cons_of_pos (by simpa using h)

theorem countOf_cons_neg {p : IngestionRequest α -> Prop} {request : IngestionRequest α}
    (h : ¬ p request) (rest : List (IngestionRequest α)) :
    countOf p (request :: rest) = countOf p rest :=
  List.countP_cons_of_neg (by simpa using h)

theorem countOf_eq_zero {p : IngestionRequest α -> Prop} {requests : List (IngestionRequest α)} :
    countOf p requests = 0 <-> forall request, request ∈ requests -> ¬ p request := by
  unfold countOf
  rw [List.countP_eq_zero]
  simp only [decide_eq_true_eq]

/-!
## One request
-/

theorem resultFromTaskName_main : resultFromTaskName (some mainTaskName) = .main := by
  decide

theorem resultFromTaskName_dlq : resultFromTaskName (some dlqTaskName) = .dlq := by
  decide

theorem ingestionResponse_main (config : Config) (source : String) (metrics : Metrics) :
    (ingestionResponse config (some mainTaskName) source metrics).1.statusCode = 202 ∧
      (ingestionResponse config (some mainTaskName) source metrics).2.alertIngestionTotal =
        inc (source, "success") metrics.alertIngestionTotal := by
  unfold ingestionResponse
  rw [resultFromTaskName_main]
  exact ⟨rfl, rfl⟩

theorem ingestionResponse_dlq {config : Config} (hoff : config.dlqAccept = false)
    (source : String) (metrics : Metrics) :
    (ingestionResponse config (some dlqTaskName) source metrics).1.statusCode = 503 ∧
      ("Retry-After", config.retryAfter) ∈
        (ingestionResponse config (some dlqTaskName) source metrics).1.headers ∧
      (ingestionResponse config (some dlqTaskName) source metrics).2.alertIngestionTotal =
        inc (source, "dlq") metrics.alertIngestionTotal := by
  unfold ingestionResponse
  simp only [resultFromTaskName_dlq, hoff]
  exact ⟨rfl, List.mem_cons_self, rfl⟩

/-- What `receive_generic_event` answers and counts. -/
theorem answer_generic {config : Config} (hoff : config.dlqAccept = false)
    {request : IngestionRequest α} (hgeneric : request.providerType = none)
    (metrics : Metrics) :
    (Acknowledged config request ∧
        (answer config request metrics).1.statusCode = 202 ∧
        (answer config request metrics).2.alertIngestionTotal =
          inc ("generic", "success") metrics.alertIngestionTotal) ∨
      (¬ Acknowledged config request ∧ ReachesTopic config request ∧
        ((answer config request metrics).1.statusCode = 503 ∧
          ("Retry-After", config.retryAfter) ∈ (answer config request metrics).1.headers) ∧
        (answer config request metrics).2.alertIngestionTotal =
          inc ("generic", "dlq") metrics.alertIngestionTotal) ∨
      (¬ ReachesTopic config request ∧
        ((answer config request metrics).1.statusCode = 503 ∧
          ("Retry-After", config.retryAfter) ∈ (answer config request metrics).1.headers) ∧
        (answer config request metrics).2.alertIngestionTotal = metrics.alertIngestionTotal) := by
  unfold answer receiveGenericEvent
  rw [hgeneric]
  rcases Producers.produce_cases request.broker config.maxRetries with
    ⟨hack, hok⟩ | ⟨hnot, hdiverts, htakes, hok⟩ | ⟨hnot, hneither, e, hfailed⟩
  · simp only [hok]
    exact .inl ⟨hack, ingestionResponse_main config "generic" metrics⟩
  · simp only [hok]
    rcases ingestionResponse_dlq hoff "generic" metrics with ⟨hstatus, hheader, hcounted⟩
    exact .inr (.inl ⟨hnot, .inr ⟨hdiverts, htakes⟩, ⟨hstatus, hheader⟩, hcounted⟩)
  · simp only [hfailed]
    refine .inr (.inr ⟨?_, ⟨rfl, List.mem_cons_self⟩, rfl⟩)
    rintro (hack | hdlq)
    · exact hnot hack
    · exact hneither hdlq

/-- What `receive_event` answers and counts: an event that reached a topic is counted before
its answer is built, and counted again there. -/
theorem answer_event {config : Config} (hoff : config.dlqAccept = false)
    {request : IngestionRequest α} {providerType : String}
    (hevent : request.providerType = some providerType) (metrics : Metrics) :
    (Acknowledged config request ∧
        (answer config request metrics).2.alertIngestionTotal =
          inc (providerType, "success")
            (inc (providerType, "success") metrics.alertIngestionTotal)) ∨
      (¬ Acknowledged config request ∧ ReachesTopic config request ∧
        (answer config request metrics).2.alertIngestionTotal =
          inc (providerType, "dlq")
            (inc (providerType, "success") metrics.alertIngestionTotal)) ∨
      (¬ ReachesTopic config request ∧
        (answer config request metrics).1.statusCode = 500 ∧
        (answer config request metrics).2.alertIngestionTotal = metrics.alertIngestionTotal) := by
  unfold answer receiveEvent
  rw [hevent]
  rcases Producers.produce_cases request.broker config.maxRetries with
    ⟨hack, hok⟩ | ⟨hnot, hdiverts, htakes, hok⟩ | ⟨hnot, hneither, e, hfailed⟩
  · have hname : (if mainTaskName = "" then "async-task" else mainTaskName) = mainTaskName :=
      if_neg (by decide)
    simp only [hok, hname]
    exact .inl ⟨hack, (ingestionResponse_main config providerType _).2⟩
  · have hname : (if dlqTaskName = "" then "async-task" else dlqTaskName) = dlqTaskName :=
      if_neg (by decide)
    simp only [hok, hname]
    exact .inr (.inl ⟨hnot, .inr ⟨hdiverts, htakes⟩,
      (ingestionResponse_dlq hoff providerType _).2.2⟩)
  · rw [hfailed]
    refine .inr (.inr ⟨?_, rfl, rfl⟩)
    rintro (hack | hdlq)
    · exact hnot hack
    · exact hneither hdlq

theorem truthful_generic {config : Config} (hoff : config.dlqAccept = false)
    {request : IngestionRequest α} (hgeneric : request.providerType = none)
    (metrics : Metrics) : TruthfulAnswer config request (answer config request metrics).1 := by
  rcases answer_generic hoff hgeneric metrics with
    ⟨hack, hstatus, _⟩ | ⟨hnot, _, ⟨hstatus, hheader⟩, _⟩ | ⟨hnot, ⟨hstatus, hheader⟩, _⟩
  · exact ⟨fun _ => hstatus, fun hnot => absurd hack hnot⟩
  · exact ⟨fun hack => absurd hack hnot, fun _ => ⟨hstatus, _, hheader⟩⟩
  · exact ⟨fun hack => absurd (.inl hack) hnot, fun _ => ⟨hstatus, _, hheader⟩⟩

/-- An event that `receive_event` cannot publish is not answered truthfully. -/
theorem reaches_of_truthful {config : Config} (hoff : config.dlqAccept = false)
    {request : IngestionRequest α} {providerType : String}
    (hevent : request.providerType = some providerType) {metrics : Metrics}
    (h : TruthfulAnswer config request (answer config request metrics).1) :
    ReachesTopic config request := by
  rcases answer_event hoff hevent metrics with
    ⟨hack, _⟩ | ⟨_, hreaches, _⟩ | ⟨hnot, hstatus, _⟩
  · exact .inl hack
  · exact hreaches
  · rcases h.rejected fun hack => hnot (.inl hack) with ⟨hretry, _⟩
    rw [hstatus] at hretry
    cases hretry

/-!
## Sequences of requests
-/

/-- An event that reached a topic through `receive_event`. -/
def CountedTwice (config : Config) (request : IngestionRequest α) : Prop :=
  ReachesTopic config request ∧ exists providerType, request.providerType = some providerType

theorem total_answer {config : Config} (hoff : config.dlqAccept = false)
    (request : IngestionRequest α) (metrics : Metrics) :
    total (answer config request metrics).2.alertIngestionTotal =
      total metrics.alertIngestionTotal + countOf (ReachesTopic config) [request] +
        countOf (CountedTwice config) [request] := by
  have hmain : Acknowledged config request -> ReachesTopic config request := .inl
  cases hprovider : request.providerType with
  | none =>
      have honce : ¬ CountedTwice config request := by
        rintro ⟨_, providerType, hsome⟩
        rw [hprovider] at hsome
        cases hsome
      rw [countOf_cons_neg honce]
      rcases answer_generic hoff hprovider metrics with
        ⟨hack, _, hcounted⟩ | ⟨_, hreaches, _, hcounted⟩ | ⟨hnot, _, hcounted⟩
      · rw [hcounted, total_inc, countOf_cons_pos (hmain hack)]
        rfl
      · rw [hcounted, total_inc, countOf_cons_pos hreaches]
        rfl
      · rw [hcounted, countOf_cons_neg hnot]
        rfl
  | some providerType =>
      rcases answer_event hoff hprovider metrics with
        ⟨hack, hcounted⟩ | ⟨_, hreaches, hcounted⟩ | ⟨hnot, _, hcounted⟩
      · rw [hcounted, total_inc, total_inc, countOf_cons_pos (hmain hack),
          countOf_cons_pos ⟨hmain hack, providerType, hprovider⟩]
        rfl
      · rw [hcounted, total_inc, total_inc, countOf_cons_pos hreaches,
          countOf_cons_pos ⟨hreaches, providerType, hprovider⟩]
        rfl
      · rw [hcounted, countOf_cons_neg hnot, countOf_cons_neg fun h => hnot h.1]
        rfl

theorem countOf_cons (p : IngestionRequest α -> Prop) (request : IngestionRequest α)
    (rest : List (IngestionRequest α)) :
    countOf p (request :: rest) = countOf p [request] + countOf p rest := by
  rcases Classical.em (p request) with h | h
  · rw [countOf_cons_pos h, countOf_cons_pos h, Nat.add_comm]
    congr 1
  · rw [countOf_cons_neg h, countOf_cons_neg h]
    exact (Nat.zero_add _).symm

/-- Over every sequence the total grows by one for each event that reached a topic, and once
more for each of these that came through `receive_event`. -/
theorem total_serve {config : Config} (hoff : config.dlqAccept = false)
    (requests : List (IngestionRequest α)) (metrics : Metrics) :
    total (serve config requests metrics).2.alertIngestionTotal =
      total metrics.alertIngestionTotal + countOf (ReachesTopic config) requests +
        countOf (CountedTwice config) requests := by
  induction requests generalizing metrics with
  | nil => rfl
  | cons request rest ih =>
      have hfirst := total_answer hoff request metrics
      rw [serve, ih, hfirst, countOf_cons (ReachesTopic config) request rest,
        countOf_cons (CountedTwice config) request rest]
      omega

theorem answered_serve {config : Config} (hoff : config.dlqAccept = false)
    {requests : List (IngestionRequest α)}
    (hgeneric : forall request, request ∈ requests -> request.providerType = none)
    (metrics : Metrics) :
    List.Forall₂ (TruthfulAnswer config) requests (serve config requests metrics).1 := by
  induction requests generalizing metrics with
  | nil => exact .nil
  | cons request rest ih =>
      rcases List.forall_mem_cons.mp hgeneric with ⟨hfirst, hrest⟩
      exact .cons (truthful_generic hoff hfirst metrics) (ih hrest _)

theorem succeeded_serve {config : Config} (hoff : config.dlqAccept = false)
    {requests : List (IngestionRequest α)}
    (hgeneric : forall request, request ∈ requests -> request.providerType = none)
    (metrics : Metrics) :
    totalOf "success" (serve config requests metrics).2.alertIngestionTotal =
      totalOf "success" metrics.alertIngestionTotal + countOf (Acknowledged config) requests := by
  induction requests generalizing metrics with
  | nil => rfl
  | cons request rest ih =>
      rcases List.forall_mem_cons.mp hgeneric with ⟨hfirst, hrest⟩
      rw [serve, ih hrest]
      rcases answer_generic hoff hfirst metrics with
        ⟨hack, _, hcounted⟩ | ⟨hnot, _, _, hcounted⟩ | ⟨hnot, _, hcounted⟩
      · rw [hcounted, totalOf_inc, if_pos rfl, countOf_cons_pos hack]
        omega
      · rw [hcounted, totalOf_inc, if_neg (by decide), countOf_cons_neg hnot]
        rfl
      · rw [hcounted, countOf_cons_neg fun hack => hnot (.inl hack)]

/-- A request of an answered sequence is answered at some state of the counters. -/
theorem exists_answered {config : Config} {requests : List (IngestionRequest α)}
    {metrics : Metrics}
    (h : List.Forall₂ (TruthfulAnswer config) requests (serve config requests metrics).1)
    {request : IngestionRequest α} (hmem : request ∈ requests) :
    exists reached, TruthfulAnswer config request (answer config request reached).1 := by
  induction requests generalizing metrics with
  | nil => cases hmem
  | cons first rest ih =>
      rw [serve] at h
      cases h with
      | cons hfirst hrest =>
          rcases List.mem_cons.mp hmem with rfl | hmem
          · exact ⟨metrics, hfirst⟩
          · exact ih hrest hmem

/-- A sequence of requests is answered and counted truthfully exactly when all of them go to
`receive_generic_event`. -/
theorem answersTruthfully_iff (config : Config) (hoff : config.dlqAccept = false)
    (requests : List (IngestionRequest α)) (metrics : Metrics) :
    AnswersTruthfully config requests metrics <->
      forall request, request ∈ requests -> request.providerType = none := by
  constructor
  · intro h request hmem
    cases hprovider : request.providerType with
    | none => rfl
    | some providerType =>
        exfalso
        rcases exists_answered h.answered hmem with ⟨reached, htruthful⟩
        have htwice : CountedTwice config request :=
          ⟨reaches_of_truthful hoff hprovider htruthful, providerType, hprovider⟩
        have hnone : countOf (CountedTwice config) requests = 0 := by
          have htotal := total_serve hoff requests metrics
          rw [h.reached] at htotal
          omega
        exact countOf_eq_zero.mp hnone request hmem htwice
  · intro hgeneric
    refine ⟨answered_serve hoff hgeneric metrics, ?_, succeeded_serve hoff hgeneric metrics⟩
    have hnone : countOf (CountedTwice config) requests = 0 := by
      refine countOf_eq_zero.mpr ?_
      rintro request hmem ⟨_, providerType, hsome⟩
      rw [hgeneric request hmem] at hsome
      cases hsome
    rw [total_serve hoff, hnone]
    rfl

def rejecting : Config where
  dlqAccept := false
  retryAfter := "5"
  maxRetries := 3

/-- A request that the main topic acknowledges, to the endpoint of a provider type. -/
def acknowledgedRequest (providerType : Option String) : IngestionRequest String where
  event := .single ⟨none, "disk full"⟩
  providerType := providerType
  providerId := none
  fingerprint := none
  apiKeyName := none
  traceId := "1"
  providerName := none
  broker := ⟨none, none, fun _ => .acknowledged, none, none⟩

theorem answersTruthfully_generic :
    rejecting.dlqAccept = false ∧
      (AnswersTruthfully rejecting [acknowledgedRequest none] ⟨[], []⟩ <->
        forall request, request ∈ [acknowledgedRequest none] -> request.providerType = none) :=
  ⟨rfl, answersTruthfully_iff rejecting rfl [acknowledgedRequest none] ⟨[], []⟩⟩

/-- Through `receive_event` one acknowledged alert is counted twice. -/
theorem event_counted_twice :
    ¬ AnswersTruthfully rejecting [acknowledgedRequest (some "grafana")] ⟨[], []⟩ := by
  intro h
  have htotal : total (serve rejecting [acknowledgedRequest (some "grafana")]
      ⟨[], []⟩).2.alertIngestionTotal = 2 := by
    decide
  have hbound : countOf (ReachesTopic rejecting) [acknowledgedRequest (some "grafana")] <= 1 :=
    List.countP_le_length
  have hzero : total (⟨[], []⟩ : Metrics).alertIngestionTotal = 0 := rfl
  have hreached := h.reached
  rw [htotal, hzero] at hreached
  omega

end Ingestion
end KeepGateway
