import KeepGateway.Lib.Dict
import KeepGateway.Lib.Run

/-!
# The SSE broadcaster

`SSEBroadcaster` as a machine whose actions are what runs between two await
points.  No body under the lock awaits, so whoever resumes finds the lock free
and each body is one action.  A queue has the identity of its stream.
-/

namespace KeepGateway
namespace Sse

inductive Item where
  | message (text : String)
  | close
  deriving DecidableEq, Repr

inductive CloseReason where
  | client
  | shutdown
  deriving DecidableEq, Repr

/-- Where a `subscribe()` generator stands: at a `yield`, in `wait_for`, with an
item taken off its queue, after its `finally`, or turned away while draining. -/
inductive Phase where
  | suspended
  | waiting
  | taken (item : Item)
  | ended (reason : CloseReason)
  | refused
  deriving DecidableEq, Repr

def Phase.isLive : Phase -> Bool
  | suspended => true
  | waiting => true
  | taken _ => true
  | ended _ => false
  | refused => false

structure Stream where
  tenant : String
  queue : List Item
  phase : Phase
  deriving DecidableEq, Repr

/-- What can be observed of a run. -/
inductive Event where
  | registered (id : Nat) (tenant : String)
  | connected (id : Nat)
  | keepalive (id : Nat)
  | yielded (id : Nat) (text : String)
  | ended (id : Nat) (reason : CloseReason)
  | notified (tenant : String) (text : String)
  | closedAll
  | reopened
  deriving DecidableEq, Repr

abbrev Connections := List (String × List Nat)

structure Broadcaster where
  connections : Connections
  draining : Bool
  streams : List Stream
  log : List Event

def Broadcaster.initial : Broadcaster where
  connections := []
  draining := false
  streams := []
  log := []

/-!
## Connections
-/

/-- `_connections.get(tenant_id, [])` -/
def queuesOf (connections : Connections) (tenant : String) : List Nat :=
  (connections.lookup tenant).getD []

def register (tenant : String) (id : Nat) (connections : Connections) : Connections :=
  Dict.set tenant (queuesOf connections tenant ++ [id]) connections

/-- The `finally` of a stream; a queue that is not in the list is left out. -/
def unregister (tenant : String) (id : Nat) (connections : Connections) : Connections :=
  match connections.lookup tenant with
  | none => connections
  | some queues =>
      if id ∈ queues then
        if queues.erase id = [] then Dict.erase tenant connections
        else Dict.set tenant (queues.erase id) connections
      else connections

def Connections.queues (connections : Connections) : List Nat :=
  connections.flatMap Prod.snd

/-- `put_nowait` -/
def put (item : Item) (streams : List Stream) (id : Nat) : List Stream :=
  streams.modify id fun st => { st with queue := st.queue ++ [item] }

def putAll (item : Item) (ids : List Nat) (streams : List Stream) : List Stream :=
  ids.foldl (put item) streams

/-!
## Actions
-/

variable {δ : Type}

inductive Action (δ : Type) where
  | subscribe (tenant : String)
  | resume (id : Nat)
  | timeout (id : Nat)
  | take (id : Nat)
  | deliver (id : Nat)
  | disconnect (id : Nat)
  | notify (tenant : String) (event : String) (data : δ)
  | closeAll
  | reopen

/-- `_format_sse`, for the JSON text of the data. -/
def formatSse (dumps : δ -> String) (event : String) (data : δ) : String :=
  "event: " ++ event ++ "\ndata: " ++ dumps data ++ "\n\n"

namespace Broadcaster

def setStream (s : Broadcaster) (id : Nat) (st : Stream) : Broadcaster :=
  { s with streams := s.streams.set id st }

def emit (s : Broadcaster) (events : List Event) : Broadcaster :=
  { s with log := s.log ++ events }

def subscribe (s : Broadcaster) (tenant : String) : Broadcaster :=
  let id := s.streams.length
  if s.draining then
    { s with streams := s.streams ++ [{ tenant := tenant, queue := [], phase := .refused }] }
  else
    { s with
      connections := register tenant id s.connections
      streams := s.streams ++ [{ tenant := tenant, queue := [], phase := .suspended }]
      log := s.log ++ [.registered id tenant, .connected id] }

/-- The generator returns or is closed: its `finally` runs at once. -/
def finish (s : Broadcaster) (id : Nat) (st : Stream) (reason : CloseReason) : Broadcaster :=
  { s with
    connections := unregister st.tenant id s.connections
    streams := s.streams.set id { st with phase := .ended reason }
    log := s.log ++ [.ended id reason] }

/-- The steps of one stream. -/
def advance (s : Broadcaster) (id : Nat) (st : Stream) : Action δ -> Option Broadcaster
  | .resume _ =>
      match st.phase with
      | .suspended => some (s.setStream id { st with phase := .waiting })
      | _ => none
  | .timeout _ =>
      match st.phase with
      | .waiting => some ((s.setStream id { st with phase := .suspended }).emit [.keepalive id])
      | _ => none
  | .take _ =>
      match st.phase, st.queue with
      | .waiting, item :: rest =>
          some (s.setStream id { st with queue := rest, phase := .taken item })
      | _, _ => none
  | .deliver _ =>
      match st.phase with
      | .taken (.message text) =>
          some ((s.setStream id { st with phase := .suspended }).emit [.yielded id text])
      | .taken .close => some (s.finish id st .shutdown)
      | _ => none
  | .disconnect _ => if st.phase.isLive then some (s.finish id st .client) else none
  | _ => none

def notify (s : Broadcaster) (tenant : String) (text : String) : Broadcaster :=
  { s with
    streams := putAll (.message text) (queuesOf s.connections tenant) s.streams
    log := s.log ++ [.notified tenant text] }

def closeAll (s : Broadcaster) : Broadcaster :=
  { s with
    draining := true
    streams := putAll .close s.connections.queues s.streams
    log := s.log ++ [.closedAll] }

def reopen (s : Broadcaster) : Broadcaster :=
  { s with draining := false, log := s.log ++ [.reopened] }

/-- One action; `none` where it is not enabled. -/
def step (dumps : δ -> String) (s : Broadcaster) (a : Action δ) : Option Broadcaster :=
  match a with
  | .subscribe tenant => some (s.subscribe tenant)
  | .resume id => s.streams[id]?.bind fun st => s.advance id st a
  | .timeout id => s.streams[id]?.bind fun st => s.advance id st a
  | .take id => s.streams[id]?.bind fun st => s.advance id st a
  | .deliver id => s.streams[id]?.bind fun st => s.advance id st a
  | .disconnect id => s.streams[id]?.bind fun st => s.advance id st a
  | .notify tenant event data => some (s.notify tenant (formatSse dumps event data))
  | .closeAll => some s.closeAll
  | .reopen => some s.reopen

end Broadcaster

/-!
## Queues under the operations
-/

theorem queuesOf_set (tenant t : String) (queues : List Nat) (c : Connections) :
    queuesOf (Dict.set tenant queues c) t = if tenant = t then queues else queuesOf c t := by
  unfold queuesOf
  rw [Dict.lookup_set]
  by_cases h : tenant = t <;> simp [h]

theorem queuesOf_register (tenant t : String) (id : Nat) (c : Connections) :
    queuesOf (register tenant id c) t =
      if tenant = t then queuesOf c t ++ [id] else queuesOf c t := by
  unfold register
  rw [queuesOf_set]
  by_cases h : tenant = t <;> simp [h]

theorem queuesOf_erase (tenant t : String) (c : Connections) :
    queuesOf (Dict.erase tenant c) t = if tenant = t then [] else queuesOf c t := by
  unfold queuesOf
  rw [Dict.lookup_erase]
  by_cases h : tenant = t <;> simp [h]

theorem queuesOf_unregister (tenant t : String) (id : Nat) (c : Connections) :
    queuesOf (unregister tenant id c) t =
      if tenant = t then (queuesOf c t).erase id else queuesOf c t := by
  unfold unregister
  cases hlookup : c.lookup tenant with
  | none =>
      by_cases h : tenant = t
      · subst h
        simp [queuesOf, hlookup]
      · simp [h]
  | some queues =>
      have hqueues : queuesOf c tenant = queues := by simp [queuesOf, hlookup]
      by_cases hid : id ∈ queues
      · by_cases hempty : queues.erase id = []
        · simp only [hid, hempty, if_true]
          rw [queuesOf_erase]
          by_cases h : tenant = t
          · subst h
            simp [hqueues, hempty]
          · simp [h]
        · simp only [hid, hempty, if_true, if_false]
          rw [queuesOf_set]
          by_cases h : tenant = t
          · subst h
            simp [hqueues]
          · simp [h]
      · simp only [hid, if_false]
        by_cases h : tenant = t
        · subst h
          simp [hqueues, List.erase_of_not_mem hid]
        · simp [h]

/-- Every list is in use. -/
def NoEmptyList (c : Connections) : Prop := forall t queues, (t, queues) ∈ c -> queues ≠ []

theorem NoEmptyList.register {c : Connections} (h : NoEmptyList c) (tenant : String) (id : Nat) :
    NoEmptyList (register tenant id c) := by
  intro t queues hmem
  rcases Dict.mem_set hmem with heq | hmem
  · cases heq
    simp
  · exact h t queues hmem

theorem NoEmptyList.unregister {c : Connections} (h : NoEmptyList c) (tenant : String)
    (id : Nat) : NoEmptyList (unregister tenant id c) := by
  unfold Sse.unregister
  intro t queues hmem
  split at hmem
  · exact h t queues hmem
  · split at hmem
    · split at hmem
      · exact h t queues (Dict.mem_of_mem_erase hmem)
      · rename_i hne
        rcases Dict.mem_set hmem with heq | hmem
        · cases heq
          exact hne
        · exact h t queues hmem
    · exact h t queues hmem

theorem distinct_register {c : Connections} (h : Dict.Distinct c) (tenant : String) (id : Nat) :
    Dict.Distinct (register tenant id c) :=
  h.set tenant _

theorem distinct_unregister {c : Connections} (h : Dict.Distinct c) (tenant : String)
    (id : Nat) : Dict.Distinct (unregister tenant id c) := by
  unfold unregister
  split
  · exact h
  · split
    · split
      · exact h.erase tenant
      · exact h.set tenant _
    · exact h

theorem mem_queues {c : Connections} (h : Dict.Distinct c) (id : Nat) :
    id ∈ c.queues <-> exists t, id ∈ queuesOf c t := by
  constructor
  · intro hid
    rcases List.mem_flatMap.mp hid with ⟨⟨t, queues⟩, hmem, hid⟩
    refine ⟨t, ?_⟩
    rw [queuesOf, h.lookup.mpr hmem]
    exact hid
  · rintro ⟨t, hid⟩
    cases hlookup : c.lookup t with
    | none => simp [queuesOf, hlookup] at hid
    | some queues =>
        simp only [queuesOf, hlookup, Option.getD_some] at hid
        exact List.mem_flatMap.mpr ⟨(t, queues), h.lookup.mp hlookup, hid⟩

/-- The item is put once on each queue of the list. -/
theorem getElem_putAll (item : Item) (ids : List Nat) (streams : List Stream)
    (hids : ids.Nodup) (id : Nat) :
    (putAll item ids streams)[id]? =
      (streams[id]?).map fun st =>
        if id ∈ ids then { st with queue := st.queue ++ [item] } else st := by
  induction ids generalizing streams with
  | nil =>
      show streams[id]? = _
      cases streams[id]? <;> simp
  | cons i rest ih =>
      rcases List.nodup_cons.mp hids with ⟨hi, hrest⟩
      show (putAll item rest (put item streams i))[id]? = _
      rw [ih _ hrest]
      unfold put
      rw [List.getElem?_modify]
      cases streams[id]? with
      | none => rfl
      | some st =>
          by_cases hid : i = id
          · subst hid
            simp [hi]
          · simp [hid, Ne.symm hid]

theorem length_putAll (item : Item) (ids : List Nat) (streams : List Stream) :
    (putAll item ids streams).length = streams.length := by
  induction ids generalizing streams with
  | nil => rfl
  | cons i rest ih =>
      show (putAll item rest (put item streams i)).length = _
      rw [ih, put, List.length_modify]

end Sse
end KeepGateway
