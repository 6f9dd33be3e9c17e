import KeepGateway.Lib.Run

/-!
# The subscribe loop

`start`, `stop` and `_subscribe_loop` of `RedisFanout`, each step what runs up to the next await.
The lifespan calls `start` where no loop runs.  Delays and what is delivered are left out.
-/

namespace KeepGateway
namespace Sse
namespace SubscribeLoop

/-!
## States
-/

/-- The pub/sub connection of an iteration. -/
inductive PubSub where
  | none
  | opened
  | acknowledged
  | closed
  deriving DecidableEq, Repr

/-- The await where the loop is; `ended` is a task that is done, `idle` one that `stop` has
forgotten.  In `finally`, `raised` says that `CancelledError` goes on from there. -/
inductive Phase where
  | idle
  | scheduled
  | subscribing
  | acknowledging
  | pinging
  | reading
  | delivering
  | sleeping
  | closingPubsub (raised : Bool)
  | closingClient (raised : Bool)
  | ended
  deriving DecidableEq, Repr

/-- An await inside an acknowledged subscription. -/
def Phase.isInside : Phase -> Bool
  | .pinging => true
  | .reading => true
  | .delivering => true
  | _ => false

/-- `connected` is the gauge, `cancelling` a cancellation that is still to be delivered, and
`numbers` has the number of every acknowledged connection, in order. -/
structure State where
  phase : Phase
  pubsub : PubSub
  subscribed : Bool
  subscription : Nat
  connected : Nat
  stopping : Bool
  cancelling : Bool
  numbers : List Nat
  deriving DecidableEq, Repr

def State.initial : State where
  phase := .idle
  pubsub := .none
  subscribed := false
  subscription := 0
  connected := 0
  stopping := false
  cancelling := false
  numbers := []

/-- The choices are those of the environment: whether the client can be made, whether the
subscription has been quiet, and whether a message has come. -/
inductive Act where
  | start
  | stop
  | stopped
  | begin (connects : Bool)
  | sent
  | silence
  | acknowledge
  | ponged
  | read (message ping : Bool)
  | delivered (ping : Bool)
  | fail
  | wake (connects : Bool)
  | closed (connects : Bool)
  | cancel
  deriving DecidableEq, Repr

/-!
## The parts of the loop
-/

namespace State

/-- The test of the outer loop, with the start of an iteration or the end of the task. -/
def top (connects : Bool) (s : State) : State :=
  if s.stopping then { s with phase := .ended, connected := 0 }
  else if connects then { s with phase := .subscribing, pubsub := .opened }
  else { s with phase := .sleeping, pubsub := .none, subscribed := false, connected := 0 }

/-- `except Exception`, up to the sleep. -/
def handle (s : State) : State :=
  { s with phase := .sleeping, subscribed := false, connected := 0 }

/-- What follows `finally`. -/
def proceed (raised connects : Bool) (s : State) : State :=
  if raised then { s with phase := .ended } else s.top connects

/-- `finally`, up to its first await, if there is one. -/
def close (raised connects : Bool) (s : State) : State :=
  if s.pubsub = .none then { s with subscribed := false }.proceed raised connects
  else { s with subscribed := false, phase := .closingPubsub raised }

/-- The test of the inner loop. -/
def next (ping : Bool) (s : State) : State :=
  if s.stopping then s.close false false
  else { s with phase := if ping then .pinging else .reading }

/-- The acknowledgement of the subscription. -/
def acknowledge (s : State) : State :=
  { s with
    subscription := s.subscription + 1
    subscribed := true
    connected := 1
    pubsub := .acknowledged
    numbers := s.numbers ++ [s.subscription + 1] }

/-- A cancellation at the await. -/
def cancel (s : State) : State :=
  let s := { s with cancelling := false }
  match s.phase with
  | .idle => s
  | .ended => s
  | .scheduled => { s with phase := .ended }
  | .closingPubsub _ => { s with phase := .ended }
  | .closingClient _ => { s with phase := .ended }
  | _ => s.close true false

def isRunning (s : State) : Bool :=
  match s.phase with
  | .idle => false
  | .ended => false
  | _ => true

end State

/-- A step of the loop itself. -/
def loopStep (s : State) : Act -> Option State
  | .begin connects => if s.phase = .scheduled then some (s.top connects) else none
  | .sent => if s.phase = .subscribing then some { s with phase := .acknowledging } else none
  | .silence => if s.phase = .acknowledging then some s else none
  | .acknowledge => if s.phase = .acknowledging then some (s.acknowledge.next false) else none
  | .ponged => if s.phase = .pinging then some { s with phase := .reading } else none
  | .read message ping =>
      if s.phase = .reading then
        if message then some { s with phase := .delivering } else some (s.next ping)
      else none
  | .delivered ping => if s.phase = .delivering then some (s.next ping) else none
  | .fail =>
      if s.phase = .subscribing ∨ s.phase = .acknowledging ∨ s.phase.isInside then some s.handle
      else none
  | .wake connects => if s.phase = .sleeping then some (s.close false connects) else none
  | .closed connects =>
      match s.phase with
      | .closingPubsub raised =>
          some { s with phase := .closingClient raised, pubsub := .closed }
      | .closingClient raised => some (s.proceed raised connects)
      | _ => none
  | _ => none

/-- A step of the loop or of its owner.  A cancellation comes before anything else at the await of
the loop. -/
def step (s : State) : Act -> Option State
  | .start =>
      if s.phase = .idle then some { s with stopping := false, phase := .scheduled } else none
  | .stop => some { s with stopping := true, cancelling := s.isRunning }
  | .stopped =>
      if s.phase = .ended ∧ s.stopping then some { s with phase := .idle } else none
  | .cancel => if s.cancelling then some s.cancel else none
  | act => if s.cancelling then none else loopStep s act

end SubscribeLoop
end Sse
end KeepGateway
