import Mathlib.Data.List.Induction
import Mathlib.Data.List.Nodup

/-!
# The event subscriber

`EventSubscriber.add_consumer`, `remove_consumer` and `status` over whole sequences of
calls.
-/

namespace KeepGateway
namespace Producers

/-- A consumer object of a provider. -/
structure Consumer where
  providerId : String
  /-- `stop_consume` has been called -/
  stopped : Bool
  deriving DecidableEq, Repr

structure EventSubscriber where
  consumers : List Consumer
  deriving DecidableEq, Repr

namespace EventSubscriber

def initial : EventSubscriber := ⟨[]⟩

/-- `status()`, for the status that each consumer reports. -/
def status {σ : Type} (consumerStatus : Consumer -> σ) (s : EventSubscriber) : List (String × σ) :=
  s.consumers.map fun cp => (cp.providerId, consumerStatus cp)

def addConsumer (providerId : String) (s : EventSubscriber) : EventSubscriber :=
  ⟨s.consumers ++ [⟨providerId, false⟩]⟩

/-- The loop stops at the first consumer with the id. -/
def stopFirst (providerId : String) : List Consumer -> List Consumer
  | [] => []
  | cp :: rest =>
      if cp.providerId = providerId then { cp with stopped := true } :: rest
      else cp :: stopFirst providerId rest

def removeConsumer (providerId : String) (s : EventSubscriber) : EventSubscriber :=
  ⟨stopFirst providerId s.consumers⟩

end EventSubscriber

inductive Call where
  | addConsumer (providerId : String)
  | removeConsumer (providerId : String)
  deriving DecidableEq, Repr

def Call.apply (s : EventSubscriber) : Call -> EventSubscriber
  | addConsumer providerId => s.addConsumer providerId
  | removeConsumer providerId => s.removeConsumer providerId

def afterCalls (calls : List Call) : EventSubscriber :=
  calls.foldl Call.apply EventSubscriber.initial

/-!
## What the calls install
-/

def Call.install (ids : List String) : Call -> List String
  | addConsumer providerId => ids ++ [providerId]
  | removeConsumer providerId => ids.erase providerId

/-- The providers that are installed after the calls. -/
def installed (calls : List Call) : List String := calls.foldl Call.install []

/-- No provider is added while it is installed. -/
def OneAtATime (calls : List Call) : Prop :=
  forall before id rest, calls = before ++ .addConsumer id :: rest -> id ∉ installed before

/-- No call removes an installed provider. -/
def NoneRemoved (calls : List Call) : Prop :=
  forall before id rest, calls = before ++ .removeConsumer id :: rest -> id ∉ installed before

/-- The consumers follow the installations that the calls so far have made. -/
structure Follows (calls : List Call) : Prop where
  stopped : forall cp, cp ∈ (afterCalls calls).consumers -> cp.providerId ∉ installed calls ->
    cp.stopped = true
  running : forall id, id ∈ installed calls ->
    exists cp, ((afterCalls calls).consumers.filter fun c => c.providerId = id).getLast? = some cp ∧
      cp.stopped = false
  status : forall {σ : Type} (consumerStatus : Consumer -> σ),
    (((afterCalls calls).status consumerStatus).map Prod.fst).Perm (installed calls)

theorem afterCalls_snoc (calls : List Call) (call : Call) :
    afterCalls (calls ++ [call]) = call.apply (afterCalls calls) := by
  rw [afterCalls, List.foldl_append]
  rfl

theorem installed_snoc (calls : List Call) (call : Call) :
    installed (calls ++ [call]) = call.install (installed calls) := by
  rw [installed, List.foldl_append]
  rfl

theorem status_ids {σ : Type} (consumerStatus : Consumer -> σ) (s : EventSubscriber) :
    (s.status consumerStatus).map Prod.fst = s.consumers.map Consumer.providerId := by
  unfold EventSubscriber.status
  rw [List.map_map]
  rfl

theorem OneAtATime.of_append {calls more : List Call} (h : OneAtATime (calls ++ more)) :
    OneAtATime calls := by
  intro before id rest heq
  exact h before id (rest ++ more) (by rw [heq]; simp)

theorem NoneRemoved.of_append {calls more : List Call} (h : NoneRemoved (calls ++ more)) :
    NoneRemoved calls := by
  intro before id rest heq
  exact h before id (rest ++ more) (by rw [heq]; simp)

theorem oneAtATime_nil : OneAtATime [] := by
  intro before id rest heq
  exact absurd heq.symm (by simp)

theorem OneAtATime.snoc {calls : List Call} {call : Call} (h : OneAtATime calls)
    (hcall : forall id, call = .addConsumer id -> id ∉ installed calls) :
    OneAtATime (calls ++ [call]) := by
  intro before id rest heq
  rcases List.eq_nil_or_concat rest with hrest | ⟨rest', last, hrest⟩
  · rw [hrest] at heq
    rcases List.append_inj' heq rfl with ⟨hbefore, hlast⟩
    rw [← hbefore]
    exact hcall id (List.singleton_inj.mp hlast)
  · rw [hrest, List.concat_eq_append, ← List.cons_append, ← List.append_assoc] at heq
    exact h before id rest' (List.append_inj' heq rfl).1

/-!
## Removal
-/

theorem map_stopFirst (id : String) (consumers : List Consumer) :
    (EventSubscriber.stopFirst id consumers).map Consumer.providerId =
      consumers.map Consumer.providerId := by
  induction consumers with
  | nil => rfl
  | cons cp rest ih =>
      unfold EventSubscriber.stopFirst
      split
      · rfl
      · rw [List.map_cons, List.map_cons, ih]

theorem stopFirst_of_not_mem {id : String} {consumers : List Consumer}
    (h : id ∉ consumers.map Consumer.providerId) :
    EventSubscriber.stopFirst id consumers = consumers := by
  induction consumers with
  | nil => rfl
  | cons cp rest ih =>
      rw [List.map_cons, List.mem_cons, not_or] at h
      unfold EventSubscriber.stopFirst
      rw [if_neg fun heq => h.1 heq.symm, ih h.2]

/-- Once a consumer of the id is stopped, removing the id again stops no other one. -/
theorem stopFirst_again {id : String} {consumers : List Consumer}
    (h : id ∈ consumers.map Consumer.providerId) (added : List Consumer) :
    EventSubscriber.stopFirst id (EventSubscriber.stopFirst id consumers ++ added) =
      EventSubscriber.stopFirst id consumers ++ added := by
  induction consumers with
  | nil => cases h
  | cons cp rest ih =>
      rcases Classical.em (cp.providerId = id) with heq | hne
      · simp [EventSubscriber.stopFirst, heq]
      · have hrest : id ∈ rest.map Consumer.providerId :=
          (List.mem_cons.mp h).resolve_left fun heq => hne heq.symm
        simp only [EventSubscriber.stopFirst, if_neg hne, List.cons_append]
        rw [ih hrest]

/-!
## Runs
-/

/-- While no installed provider is removed, the list holds one running consumer for each. -/
theorem consumers_of_noneRemoved {calls : List Call} (hone : OneAtATime calls)
    (hnone : NoneRemoved calls) :
    (afterCalls calls).consumers = (installed calls).map (fun id => ⟨id, false⟩) ∧
      (installed calls).Nodup := by
  induction calls using List.reverseRecOn with
  | nil => exact ⟨rfl, List.nodup_nil⟩
  | append_singleton calls call ih =>
      rcases ih hone.of_append hnone.of_append with ⟨hconsumers, hnodup⟩
      rw [afterCalls_snoc, installed_snoc]
      cases call with
      | addConsumer id =>
          have hfresh : id ∉ installed calls := hone calls id [] rfl
          constructor
          · show (afterCalls calls).consumers ++ [⟨id, false⟩] =
              (installed calls ++ [id]).map fun id => ⟨id, false⟩
            rw [hconsumers, List.map_append]
            rfl
          · exact List.nodup_append'.mpr ⟨hnodup, List.nodup_singleton id, by simpa using hfresh⟩
      | removeConsumer id =>
          have hnot : id ∉ installed calls := hnone calls id [] rfl
          have herase : Call.install (installed calls) (.removeConsumer id) = installed calls :=
            List.erase_of_not_mem hnot
          rw [herase]
          refine ⟨?_, hnodup⟩
          show EventSubscriber.stopFirst id (afterCalls calls).consumers = _
          rw [hconsumers]
          apply stopFirst_of_not_mem
          rw [List.map_map]
          intro hmem
          rcases List.mem_map.mp hmem with ⟨other, hother, rfl⟩
          exact hnot hother

theorem follows_of_noneRemoved {calls : List Call} (hone : OneAtATime calls)
    (hnone : NoneRemoved calls) : Follows calls := by
  rcases consumers_of_noneRemoved hone hnone with ⟨hconsumers, hnodup⟩
  refine ⟨?_, ?_, ?_⟩
  · intro cp hcp hnot
    rw [hconsumers] at hcp
    rcases List.mem_map.mp hcp with ⟨id, hid, rfl⟩
    exact absurd hid hnot
  · intro id hid
    have hfilter : (afterCalls calls).consumers.filter (fun c => c.providerId = id) =
        [⟨id, false⟩] := by
      rw [hconsumers, List.filter_map]
      have hone : (installed calls).filter ((fun c => decide (c.providerId = id)) ∘
          fun other => (⟨other, false⟩ : Consumer)) = [id] := by
        show (installed calls).filter (fun other => decide (other = id)) = [id]
        rw [List.filter_eq, List.count_eq_one_of_mem hnodup hid]
        rfl
      rw [hone]
      rfl
    rw [hfilter]
    exact ⟨_, rfl, rfl⟩
  · intro σ consumerStatus
    rw [status_ids, hconsumers, List.map_map]
    exact (List.map_id _) ▸ List.Perm.refl _

/-- `status()` lists as many consumers as there have been additions. -/
theorem length_of_follows {calls : List Call} (h : Follows calls) :
    (afterCalls calls).consumers.length = (installed calls).length := by
  have hlength := (h.status fun _ => ()).length_eq
  rw [status_ids, List.length_map] at hlength
  exact hlength

/-- For calls that never install a provider twice at a time, the consumers follow after
each call exactly when no call removes an installed provider. -/
theorem follows_iff (calls : List Call) (hone : OneAtATime calls) :
    (forall before rest, calls = before ++ rest -> Follows before) <-> NoneRemoved calls := by
  constructor
  · intro hfollows before id rest heq hmem
    have hbefore := length_of_follows (hfollows before _ heq)
    have hafter := length_of_follows
      (hfollows (before ++ [.removeConsumer id]) rest (by rw [heq]; simp))
    rw [afterCalls_snoc, installed_snoc] at hafter
    have hsame : (EventSubscriber.removeConsumer id (afterCalls before)).consumers.length =
        (afterCalls before).consumers.length := by
      have hmap := congrArg List.length (map_stopFirst id (afterCalls before).consumers)
      rw [List.length_map, List.length_map] at hmap
      exact hmap
    have herase : ((installed before).erase id).length = (installed before).length - 1 :=
      List.length_erase_of_mem hmem
    have hpos : 0 < (installed before).length := List.length_pos_of_mem hmem
    have hshrunk : (afterCalls before).consumers.length = (installed before).length - 1 := by
      rw [← herase, ← hsame]
      exact hafter
    omega
  · intro hnone before rest heq
    rw [heq] at hone hnone
    exact follows_of_noneRemoved hone.of_append hnone.of_append

def twoProviders : List Call := [.addConsumer "kafka-1", .addConsumer "kafka-2"]

theorem oneAtATime_twoProviders : OneAtATime twoProviders :=
  (oneAtATime_nil.snoc fun _ _ => List.not_mem_nil).snoc fun id heq => by
    cases heq
    decide

theorem follows_iff_twoProviders :
    (forall before rest, twoProviders = before ++ rest -> Follows before) <->
      NoneRemoved twoProviders :=
  follows_iff twoProviders oneAtATime_twoProviders

def reinstalled : List Call :=
  [.addConsumer "kafka-1", .removeConsumer "kafka-1", .addConsumer "kafka-1",
    .removeConsumer "kafka-1"]

/-- A provider that is removed, added and removed again is still consumed. -/
theorem reinstalled_not_stopped : OneAtATime reinstalled ∧ ¬ Follows reinstalled := by
  constructor
  · have hone : OneAtATime [.addConsumer "kafka-1", .removeConsumer "kafka-1"] :=
      (oneAtATime_nil.snoc fun _ _ => List.not_mem_nil).snoc fun id heq => by cases heq
    have hagain : OneAtATime ([.addConsumer "kafka-1", .removeConsumer "kafka-1"] ++
        [.addConsumer "kafka-1"]) :=
      hone.snoc fun id heq => by
        cases heq
        decide
    exact hagain.snoc fun id heq => by cases heq
  · intro hfollows
    have hconsumers : (⟨"kafka-1", false⟩ : Consumer) ∈ (afterCalls reinstalled).consumers := by
      decide
    have hnot : "kafka-1" ∉ installed reinstalled := by decide
    exact absurd (hfollows.stopped _ hconsumers hnot) Bool.false_ne_true

end Producers
end KeepGateway
