import KeepGateway.Lib.Except

/-!
# Producing to Kafka

`KafkaEventProducer.produce`, for what the serialiser, the connections and the sends do.
-/

namespace KeepGateway
namespace Producers

/-- `MAIN_TASK_NAME` -/
def mainTaskName : String := "kafka-async-task"

/-- `DLQ_TASK_NAME` -/
def dlqTaskName : String := "kafka-async-task-dlq"

inductive ProduceResult where
  | main
  | dlq
  deriving DecidableEq, Repr

/-- `ProduceResult.value` -/
def ProduceResult.value : ProduceResult -> String
  | main => "main"
  | dlq => "dlq"

/-- `task_name.endswith("-dlq")` -/
def isDlqTaskName (taskName : String) : Bool := "-dlq".toList.isSuffixOf taskName.toList

/-- `result_from_task_name` -/
def resultFromTaskName (taskName : Option String) : ProduceResult :=
  match taskName with
  | some name => if isDlqTaskName name then .dlq else .main
  | none => .main

/-- An exception, by the name of its type. -/
structure PyException where
  typeName : String
  deriving DecidableEq, Repr

def kafkaConnectionError : PyException := ⟨"KafkaConnectionError"⟩

def runtimeError : PyException := ⟨"RuntimeError"⟩

/-- One round of the retry loop: the budget is exhausted before it, or the send is
acknowledged or fails, by a timeout or otherwise. -/
inductive Round where
  | exhausted
  | acknowledged
  | failed
  deriving DecidableEq, Repr

/-- What the world outside does during one call of `produce`; `none` is a success. -/
structure Broker where
  serialization : Option PyException
  start : Option PyException
  rounds : Nat -> Round
  dlqStart : Option PyException
  dlqSend : Option PyException

namespace Broker

variable (broker : Broker)

/-- The rounds that are left of `_produce_with_retry`. -/
def retry : Nat -> Nat -> Option String
  | _, 0 => none
  | attempt, left + 1 =>
      match broker.rounds attempt with
      | .exhausted => none
      | .acknowledged => some mainTaskName
      | .failed => retry (attempt + 1) left

/-- The producer is started whatever its state; a `RuntimeError` is passed over. -/
def startDlq : Except PyException Unit :=
  match broker.dlqStart with
  | none => .ok ()
  | some e => if e = runtimeError then .ok () else .error e

/-- `_send_to_dlq` -/
def sendToDlq : Except PyException String := do
  let _ <- broker.startDlq
  match broker.dlqSend with
  | none => .ok dlqTaskName
  | some e => .error e

def produce (maxRetries : Nat) : Except PyException String :=
  match broker.serialization, broker.start with
  | some e, _ => .error e
  | none, some e => if e = kafkaConnectionError then broker.sendToDlq else .error e
  | none, none =>
      match broker.retry 0 maxRetries with
      | some taskName => .ok taskName
      | none => broker.sendToDlq

/-!
## Where an event lands
-/

/-- The main topic acknowledges the event, in one of the rounds. -/
def MainAcknowledges (maxRetries : Nat) : Prop :=
  broker.serialization = none ∧ broker.start = none ∧
    exists attempt, attempt < maxRetries ∧ broker.rounds attempt = .acknowledged ∧
      forall earlier, earlier < attempt -> broker.rounds earlier = .failed

/-- The producer gives the event to the dead-letter topic. -/
def Diverts (maxRetries : Nat) : Prop :=
  broker.serialization = none ∧
    (broker.start = some kafkaConnectionError ∨
      broker.start = none ∧ ¬ broker.MainAcknowledges maxRetries)

/-- The dead-letter topic takes what is diverted to it. -/
def DlqTakes : Prop :=
  broker.dlqSend = none ∧ (broker.dlqStart = none ∨ broker.dlqStart = some runtimeError)

end Broker

theorem retry_eq_some {broker : Broker} {attempt left : Nat} {taskName : String} :
    broker.retry attempt left = some taskName <->
      taskName = mainTaskName ∧
        exists k, k < left ∧ broker.rounds (attempt + k) = .acknowledged ∧
          forall j, j < k -> broker.rounds (attempt + j) = .failed := by
  induction left generalizing attempt with
  | zero =>
      constructor
      · intro h
        cases h
      · rintro ⟨_, k, hk, _⟩
        exact absurd hk (Nat.not_lt_zero k)
  | succ left ih =>
      unfold Broker.retry
      cases hround : broker.rounds attempt with
      | exhausted =>
          constructor
          · intro h
            cases h
          · rintro ⟨_, k, _, hk, hfailed⟩
            cases k with
            | zero =>
                rw [Nat.add_zero, hround] at hk
                cases hk
            | succ k =>
                have hfirst := hfailed 0 (Nat.succ_pos k)
                rw [Nat.add_zero, hround] at hfirst
                cases hfirst
      | acknowledged =>
          constructor
          · intro h
            cases h
            exact ⟨rfl, 0, Nat.succ_pos left, hround, fun j hj => absurd hj (Nat.not_lt_zero j)⟩
          · rintro ⟨rfl, _⟩
            rfl
      | failed =>
          simp only
          rw [ih]
          constructor
          · rintro ⟨hname, k, hk, hack, hfailed⟩
            refine ⟨hname, k + 1, Nat.succ_lt_succ hk, ?_, ?_⟩
            · rw [← hack]
              congr 1
              omega
            · intro j hj
              cases j with
              | zero => exact hround
              | succ j =>
                  rw [← hfailed j (Nat.lt_of_succ_lt_succ hj)]
                  congr 1
                  omega
          · rintro ⟨hname, k, hk, hack, hfailed⟩
            cases k with
            | zero =>
                rw [Nat.add_zero, hround] at hack
                cases hack
            | succ k =>
                refine ⟨hname, k, Nat.lt_of_succ_lt_succ hk, ?_, ?_⟩
                · rw [← hack]
                  congr 1
                  omega
                · intro j hj
                  rw [← hfailed (j + 1) (Nat.succ_lt_succ hj)]
                  congr 1
                  omega

theorem retry_acknowledged {broker : Broker} {maxRetries : Nat} {taskName : String}
    (hserialized : broker.serialization = none) (hstart : broker.start = none) :
    broker.retry 0 maxRetries = some taskName <->
      taskName = mainTaskName ∧ broker.MainAcknowledges maxRetries := by
  rw [retry_eq_some]
  simp only [Nat.zero_add, Broker.MainAcknowledges, hserialized, hstart, true_and]

theorem startDlq_cases (broker : Broker) :
    ((broker.dlqStart = none ∨ broker.dlqStart = some runtimeError) ∧
        broker.startDlq = .ok ()) ∨
      (¬ (broker.dlqStart = none ∨ broker.dlqStart = some runtimeError) ∧
        exists e, broker.startDlq = .error e) := by
  unfold Broker.startDlq
  cases broker.dlqStart with
  | none => exact .inl ⟨.inl rfl, rfl⟩
  | some e =>
      rcases Classical.em (e = runtimeError) with heq | hne
      · exact .inl ⟨.inr (by rw [heq]), if_pos heq⟩
      · exact .inr ⟨by simp [hne], e, if_neg hne⟩

theorem sendToDlq_cases (broker : Broker) :
    (broker.DlqTakes ∧ broker.sendToDlq = .ok dlqTaskName) ∨
      (¬ broker.DlqTakes ∧ exists e, broker.sendToDlq = .error e) := by
  unfold Broker.sendToDlq Broker.DlqTakes
  rcases startDlq_cases broker with ⟨hstart, hok⟩ | ⟨hstart, e, hfailed⟩
  · rw [hok]
    cases broker.dlqSend with
    | none => exact .inl ⟨⟨rfl, hstart⟩, rfl⟩
    | some e => exact .inr ⟨fun h => (by cases h.1), e, rfl⟩
  · rw [hfailed]
    exact .inr ⟨fun h => hstart h.2, e, rfl⟩

/-- How a call of `produce` ends: acknowledged, diverted, or with an exception because no
topic took the event. -/
theorem produce_cases (broker : Broker) (maxRetries : Nat) :
    (broker.MainAcknowledges maxRetries ∧ broker.produce maxRetries = .ok mainTaskName) ∨
      (¬ broker.MainAcknowledges maxRetries ∧ broker.Diverts maxRetries ∧ broker.DlqTakes ∧
        broker.produce maxRetries = .ok dlqTaskName) ∨
      (¬ broker.MainAcknowledges maxRetries ∧
        ¬ (broker.Diverts maxRetries ∧ broker.DlqTakes) ∧
        exists e, broker.produce maxRetries = .error e) := by
  have hdivert : ¬ broker.MainAcknowledges maxRetries -> broker.Diverts maxRetries ->
      broker.produce maxRetries = broker.sendToDlq ->
      (¬ broker.MainAcknowledges maxRetries ∧ broker.Diverts maxRetries ∧ broker.DlqTakes ∧
        broker.produce maxRetries = .ok dlqTaskName) ∨
      (¬ broker.MainAcknowledges maxRetries ∧
        ¬ (broker.Diverts maxRetries ∧ broker.DlqTakes) ∧
        exists e, broker.produce maxRetries = .error e) := by
    intro hnot hdiverts heq
    rw [heq]
    rcases sendToDlq_cases broker with ⟨htakes, hsent⟩ | ⟨htakes, hfailed⟩
    · exact .inl ⟨hnot, hdiverts, htakes, hsent⟩
    · exact .inr ⟨hnot, fun h => htakes h.2, hfailed⟩
  cases hserialized : broker.serialization with
  | some e =>
      refine .inr (.inr ⟨?_, ?_, e, ?_⟩)
      · intro h
        rw [h.1] at hserialized
        cases hserialized
      · intro h
        rw [h.1.1] at hserialized
        cases hserialized
      · unfold Broker.produce
        rw [hserialized]
  | none =>
      cases hstart : broker.start with
      | some e =>
          have hnot : ¬ broker.MainAcknowledges maxRetries := by
            intro h
            rw [h.2.1] at hstart
            cases hstart
          rcases Classical.em (e = kafkaConnectionError) with heq | hne
          · refine .inr (hdivert hnot ⟨hserialized, .inl (by rw [hstart, heq])⟩ ?_)
            unfold Broker.produce
            rw [hserialized, hstart]
            exact if_pos heq
          · refine .inr (.inr ⟨hnot, ?_, e, ?_⟩)
            · rintro ⟨⟨_, hkafka | ⟨hnone, _⟩⟩, _⟩
              · rw [hstart] at hkafka
                exact hne (Option.some.inj hkafka)
              · rw [hstart] at hnone
                cases hnone
            · unfold Broker.produce
              rw [hserialized, hstart]
              exact if_neg hne
      | none =>
          have hretry : forall name, broker.retry 0 maxRetries = some name <->
              name = mainTaskName ∧ broker.MainAcknowledges maxRetries :=
            fun _ => retry_acknowledged hserialized hstart
          cases hresult : broker.retry 0 maxRetries with
          | some name =>
              rcases (hretry name).mp hresult with ⟨hname, hack⟩
              refine .inl ⟨hack, ?_⟩
              unfold Broker.produce
              rw [hserialized, hstart]
              simp only [hresult, hname]
          | none =>
              have hnot : ¬ broker.MainAcknowledges maxRetries := by
                intro hack
                rw [(hretry mainTaskName).mpr ⟨rfl, hack⟩] at hresult
                cases hresult
              refine .inr (hdivert hnot ⟨hserialized, .inr ⟨hstart, hnot⟩⟩ ?_)
              unfold Broker.produce
              rw [hserialized, hstart]
              simp only [hresult]

end Producers
end KeepGateway
