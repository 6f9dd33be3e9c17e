import KeepGateway.Lib.Run
import KeepGateway.Producers.KafkaProducer

/-!
# Starting the Kafka producers

Calls of `produce`, and of `health(attempt_reconnect=True)` and `start`, on one event loop:
each runs from one suspension to the next, in any order.
-/

namespace KeepGateway
namespace Producers

open Run

/-!
## The calls
-/

/-- The two `AIOKafkaProducer`s. -/
inductive Client where
  | main
  | dlq
  deriving DecidableEq, Repr

/-- The places where a client is started: `_ensure_started`, for either client, and
`_send_to_dlq`. -/
inductive Connection where
  | startUpMain
  | startUpDlq
  | diversion
  deriving DecidableEq, Repr

def Connection.client : Connection -> Client
  | startUpMain => .main
  | startUpDlq => .dlq
  | diversion => .dlq

/-- What `start()` and `stop()` are seen to do. -/
inductive Event where
  | invoked (connection : Connection)
  | connected (connection : Connection)
  | failed (connection : Connection)
  | stopped
  deriving DecidableEq, Repr

inductive CallKind where
  | produce
  | probe
  deriving DecidableEq, Repr

/-- Where a call is suspended. -/
inductive CallPhase where
  | called
  | waitingLock
  | startingMain
  | startingDlq
  | sending (left : Nat)
  | givingUp
  | divertStarting
  | sendingDlq
  | returned
  deriving DecidableEq, Repr

structure KafkaState where
  /-- `_started` -/
  started : Bool
  /-- `_start_lock` is held. -/
  locked : Bool
  phase : Nat -> CallPhase
  /-- The newest event first. -/
  log : List Event

namespace KafkaState

def init : KafkaState where
  started := false
  locked := false
  phase := fun _ => .called
  log := []

variable (i : Nat) (s : KafkaState)

def move (phase : CallPhase) : KafkaState :=
  { s with phase := fun j => if j = i then phase else s.phase j }

def record (event : Event) : KafkaState := { s with log := event :: s.log }

/-- Past the check of `_started` under the lock. -/
def enter : KafkaState :=
  { s.move i .startingMain with locked := true }.record (.invoked .startUpMain)

end KafkaState

/-- What happens on the loop: a call is made, a waiting one gets the lock, the `start()` or
the send that one awaits comes back (`none` is a success), or both clients are stopped.
Giving an event to the dead-letter topic is a step of its own. -/
inductive LoopAction where
  | begin (i : Nat)
  | acquire (i : Nat)
  | mainStart (i : Nat) (outcome : Option PyException)
  | dlqStart (i : Nat) (outcome : Option PyException)
  | round (i : Nat) (outcome : Round)
  | divert (i : Nat)
  | divertStart (i : Nat) (outcome : Option PyException)
  | dlqSend (i : Nat) (outcome : Option PyException)
  | stop
  deriving DecidableEq, Repr

section Steps

variable (kind : Nat -> CallKind) (maxRetries : Nat)

/-- Where a call goes on when `_ensure_started` returns. -/
def afterStart (i : Nat) : CallPhase :=
  match kind i with
  | .probe => .returned
  | .produce => .sending maxRetries

/-- Where a call goes on when `_ensure_started` raises. -/
def afterFailure (i : Nat) (e : PyException) : CallPhase :=
  match kind i with
  | .probe => .returned
  | .produce => if e = kafkaConnectionError then .givingUp else .returned

def loopStep (s : KafkaState) : LoopAction -> Option KafkaState
  | .begin i =>
      if s.phase i = .called then
        if s.started then some (s.move i (afterStart kind maxRetries i))
        else if s.locked then some (s.move i .waitingLock)
        else some (s.enter i)
      else none
  | .acquire i =>
      if s.phase i = .waitingLock ∧ s.locked = false then
        if s.started then some (s.move i (afterStart kind maxRetries i))
        else some (s.enter i)
      else none
  | .mainStart i outcome =>
      if s.phase i = .startingMain then
        match outcome with
        | none =>
            some (((s.move i .startingDlq).record (.connected .startUpMain)).record
              (.invoked .startUpDlq))
        | some e =>
            some ({ s.move i (afterFailure kind i e) with locked := false }.record
              (.failed .startUpMain))
      else none
  | .dlqStart i outcome =>
      if s.phase i = .startingDlq then
        match outcome with
        | none =>
            some ({ s.move i (afterStart kind maxRetries i) with
              started := true, locked := false }.record (.connected .startUpDlq))
        | some e =>
            some ({ s.move i (afterFailure kind i e) with locked := false }.record
              (.failed .startUpDlq))
      else none
  | .round i outcome =>
      match s.phase i with
      | .sending (left + 1) =>
          match outcome with
          | .exhausted => some (s.move i .givingUp)
          | .acknowledged => some (s.move i .returned)
          | .failed => some (s.move i (.sending left))
      | _ => none
  | .divert i =>
      if s.phase i = .givingUp ∨ s.phase i = .sending 0 then
        some ((s.move i .divertStarting).record (.invoked .diversion))
      else none
  | .divertStart i outcome =>
      if s.phase i = .divertStarting then
        match outcome with
        | none => some ((s.move i .sendingDlq).record (.connected .diversion))
        | some e =>
            some ((s.move i (if e = runtimeError then .sendingDlq else .returned)).record
              (.failed .diversion))
      else none
  | .dlqSend i _ => if s.phase i = .sendingDlq then some (s.move i .returned) else none
  | .stop => some ({ s with started := false }.record .stopped)

end Steps

end Producers
end KeepGateway
