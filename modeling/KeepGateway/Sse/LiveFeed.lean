import KeepGateway.Sse.BroadcasterDelivery
import KeepGateway.Sse.FanoutDelivery
import KeepGateway.Sse.FanoutOrder

/-!
# The live feed

Gateway processes with both halves of the feed: the fan-out, which hands
notifications over, and the broadcaster, which puts them on the queues of its
streams.  Nothing awaits between a hand-off and the queues, so both are one step.
-/

namespace KeepGateway
namespace Sse

open Run

variable {δ : Type}

/-- A gateway process with its streams. -/
structure Replica (δ : Type) where
  process : Process δ
  broadcaster : Broadcaster

inductive FeedAct (δ : Type) where
  | fanout (a : Act δ)
  | stream (a : Action δ)

def Action.isNotify : Action δ -> Bool
  | notify _ _ _ => true
  | _ => false

def Handoff.text (dumps : δ -> String) (h : Handoff δ) : String :=
  formatSse dumps h.notification.event h.notification.data

def Broadcaster.notifyHandoff (dumps : δ -> String) (s : Broadcaster) (h : Handoff δ) :
    Broadcaster :=
  s.notify h.notification.tenant (h.text dumps)

namespace Replica

def initial : Replica δ where
  process := .initial
  broadcaster := .initial

/-- What the fan-out hands over at a step goes to `broadcaster.notify` at once. -/
def follow (dumps : δ -> String) (r : Replica δ) (process : Process δ) : Replica δ where
  process := process
  broadcaster :=
    (process.handed.drop r.process.handed.length).foldl (Broadcaster.notifyHandoff dumps)
      r.broadcaster

/-- One step of process `p`; only the fan-out calls `notify`. -/
def act (json : Json δ) (dumps : δ -> String) (channel : List (Message δ)) (p : Nat)
    (r : Replica δ) : FeedAct δ -> Option (Replica δ × List (Message δ))
  | .fanout a =>
      (r.process.act json channel p a).map fun result => (r.follow dumps result.1, result.2)
  | .stream a =>
      if a.isNotify then none
      else (r.broadcaster.step dumps a).map fun s => ({ r with broadcaster := s }, [])

end Replica

abbrev LiveFeed (δ : Type) := SharedLog.System (Message δ) (Replica δ)

def liveFeed (json : Json δ) (dumps : δ -> String) :
    SharedLog.Behaviour (Message δ) (Replica δ) (FeedAct δ) Unit where
  act := Replica.act json dumps
  outside := fun _ => [.malformed]

def LiveFeed.initial (processes : Nat) : LiveFeed δ where
  log := []
  agents := List.replicate processes Replica.initial

variable {json : Json δ} {dumps : δ -> String} {channel entries : List (Message δ)} {p : Nat}

/-!
## What a step does
-/

/-- The tenant and the text of a `notify`. -/
def Event.notice : Event -> Option (String × String)
  | notified tenant text => some (tenant, text)
  | _ => none

def Action.notice (dumps : δ -> String) : Action δ -> Option (String × String)
  | notify tenant event data => some (tenant, formatSse dumps event data)
  | _ => none

def Handoff.notice (dumps : δ -> String) (h : Handoff δ) : String × String :=
  (h.notification.tenant, h.text dumps)

def Handoff.action (h : Handoff δ) : Action δ :=
  .notify h.notification.tenant h.notification.event h.notification.data

/-- A step hands over at most one notification. -/
theorem Process.Step.handed {proc proc' : Process δ}
    (h : Process.Step json channel p proc proc' entries) :
    exists more, proc'.handed = proc.handed ++ more := by
  cases h with
  | resume id call published =>
      unfold Process.resume
      split
      · exact ⟨[], (List.append_nil _).symm⟩
      · exact ⟨_, rfl⟩
  | receive next message =>
      rw [Process.deliver_eq]
      exact ⟨_, rfl⟩
  | _ => exact ⟨[], (List.append_nil _).symm⟩

theorem run_notifyHandoff (dumps : δ -> String) (s : Broadcaster) (more : List (Handoff δ)) :
    run (Broadcaster.step dumps) s (more.map Handoff.action) =
      some (more.foldl (Broadcaster.notifyHandoff dumps) s) := by
  induction more generalizing s with
  | nil => rfl
  | cons h rest ih => exact ih (s.notifyHandoff dumps h)

/-- The fan-out steps or stays, and the broadcaster runs on, told exactly what is newly
handed over. -/
structure Replica.Step (json : Json δ) (dumps : δ -> String) (channel : List (Message δ))
    (p : Nat) (r r' : Replica δ) (entries : List (Message δ)) : Prop where
  process : (exists a, r.process.act json channel p a = some (r'.process, entries)) ∨
    (r'.process = r.process ∧ entries = [])
  handed : r.process.handed <+: r'.process.handed
  broadcaster : exists actions,
    run (Broadcaster.step dumps) r.broadcaster actions = some r'.broadcaster ∧
      r'.process.handed.map (Handoff.notice dumps) =
        r.process.handed.map (Handoff.notice dumps) ++ actions.filterMap (Action.notice dumps)

theorem Replica.act_cases {r r' : Replica δ} {a : FeedAct δ}
    (h : r.act json dumps channel p a = some (r', entries)) :
    Replica.Step json dumps channel p r r' entries := by
  cases a with
  | fanout act =>
      rcases Option.map_eq_some_iff.mp h with ⟨⟨proc', appended⟩, hact, heq⟩
      cases heq
      rcases (Process.act_cases hact).handed with ⟨more, hmore⟩
      have hnotices : (more.map Handoff.action).filterMap (Action.notice dumps) =
          more.map (Handoff.notice dumps) := by
        rw [List.filterMap_map, ← List.filterMap_eq_map]
        rfl
      refine ⟨Or.inl ⟨act, hact⟩, ?_, more.map Handoff.action, ?_, ?_⟩
      · show r.process.handed <+: proc'.handed
        rw [hmore]
        exact List.prefix_append _ _
      · rw [run_notifyHandoff]
        show some _ = some ((proc'.handed.drop r.process.handed.length).foldl _ _)
        rw [hmore, List.drop_left]
      · show proc'.handed.map _ = _
        rw [hmore, hnotices, List.map_append]
  | stream action =>
      cases hnot : action.isNotify with
      | true => simp [Replica.act, hnot] at h
      | false =>
          simp only [Replica.act, hnot, Bool.false_eq_true, if_false] at h
          rcases Option.map_eq_some_iff.mp h with ⟨s, hstep, heq⟩
          cases heq
          refine ⟨Or.inr ⟨rfl, rfl⟩, List.prefix_refl _, [action],
            run_cons.mpr ⟨s, hstep, rfl⟩, ?_⟩
          cases action with
          | notify tenant event data => cases hnot
          | _ => exact (List.append_nil _).symm

theorem Replica.act_signed {r r' : Replica δ} {a : FeedAct δ}
    (h : r.act json dumps channel p a = some (r', entries)) (m : Message δ)
    (hm : m ∈ entries) : m.origin = some p := by
  rcases (Replica.act_cases h).process with ⟨act, hact⟩ | ⟨_, hentries⟩
  · exact Process.act_signed hact m hm
  · rw [hentries] at hm
    cases hm

/-- The fan-out does not see the streams. -/
theorem liveFeed_simulates (json : Json δ) (dumps : δ -> String) :
    SharedLog.Simulates (liveFeed json dumps) (fanout json) Replica.process where
  act := fun _ _ _ _ _ _ hact => (Replica.act_cases hact).process.symm
  outside := fun _ => rfl

theorem initial_map (processes : Nat) :
    (LiveFeed.initial processes : LiveFeed δ).map Replica.process = Fanout.initial processes := by
  unfold SharedLog.System.map LiveFeed.initial Fanout.initial
  rw [List.map_replicate]
  rfl

theorem fanout_reachable {processes : Nat} {s : LiveFeed δ}
    (h : Reachable (SharedLog.step (liveFeed json dumps)) (LiveFeed.initial processes) s) :
    Reachable (SharedLog.step (fanout json)) (Fanout.initial processes)
      (s.map Replica.process) := by
  rw [← initial_map]
  exact (liveFeed_simulates json dumps).reachable h

/-!
## Streams and hand-offs
-/

theorem OwnEvents.notice {id : Nat} {es : List Event} (h : OwnEvents id es) :
    es.filterMap Event.notice = [] := by
  apply List.filterMap_eq_nil_iff.mpr
  intro e he
  have hstream := h e he
  cases e with
  | notified tenant text => cases hstream
  | _ => rfl

theorem advance_own_events {s s' : Broadcaster} {id : Nat} {st : Stream} {a : Action δ}
    (h : s.advance id st a = some s') : exists es, s'.log = s.log ++ es ∧ OwnEvents id es := by
  unfold Broadcaster.advance at h
  split at h
  · split at h
    · cases h
      exact ⟨[], (List.append_nil _).symm, fun _ he => by cases he⟩
    · cases h
  · split at h
    · cases h
      exact ⟨_, rfl, ownEvents_singleton rfl⟩
    · cases h
  · split at h
    · cases h
      exact ⟨[], (List.append_nil _).symm, fun _ he => by cases he⟩
    · cases h
  · split at h
    · cases h
      exact ⟨_, rfl, ownEvents_singleton rfl⟩
    · cases h
      exact ⟨_, rfl, ownEvents_singleton rfl⟩
    · cases h
  · split at h
    · cases h
      exact ⟨_, rfl, ownEvents_singleton rfl⟩
    · cases h
  · cases h

/-- Only `notify` tells of a notification. -/
theorem step_notices {s s' : Broadcaster} {a : Action δ} (h : s.step dumps a = some s') :
    s'.log.filterMap Event.notice =
      s.log.filterMap Event.notice ++ (a.notice dumps).toList := by
  have hadvance : forall (i : Nat), (s.streams[i]?.bind fun st => s.advance i st a) = some s' ->
      s'.log.filterMap Event.notice = s.log.filterMap Event.notice ++ [] := by
    intro i hbind
    rcases Option.bind_eq_some_iff.mp hbind with ⟨st, _, hadvance⟩
    rcases advance_own_events hadvance with ⟨es, hlog, hes⟩
    rw [hlog, List.filterMap_append, hes.notice]
  cases a with
  | subscribe tenant =>
      cases h
      unfold Broadcaster.subscribe
      split
      · exact (List.append_nil _).symm
      · rw [List.filterMap_append]
        rfl
  | notify tenant event data =>
      cases h
      exact List.filterMap_append
  | closeAll =>
      cases h
      exact List.filterMap_append
  | reopen =>
      cases h
      exact List.filterMap_append
  | resume i => exact hadvance i h
  | timeout i => exact hadvance i h
  | take i => exact hadvance i h
  | deliver i => exact hadvance i h
  | disconnect i => exact hadvance i h

theorem run_notices {s s' : Broadcaster} {actions : List (Action δ)}
    (h : run (Broadcaster.step dumps) s actions = some s') :
    s'.log.filterMap Event.notice =
      s.log.filterMap Event.notice ++ actions.filterMap (Action.notice dumps) := by
  induction actions generalizing s with
  | nil =>
      cases h
      exact (List.append_nil _).symm
  | cons a rest ih =>
      rcases run_cons.mp h with ⟨t, hstep, hrest⟩
      rw [ih hrest, step_notices hstep, List.append_assoc]
      cases hnotice : a.notice dumps <;> simp [hnotice]

/-- The broadcaster is at a state of its own and was told exactly what was handed over. -/
structure ReplicaInv (dumps : δ -> String) (r : Replica δ) : Prop where
  streams : Reachable (Broadcaster.step dumps) Broadcaster.initial r.broadcaster
  told : r.broadcaster.log.filterMap Event.notice = r.process.handed.map (Handoff.notice dumps)

theorem Replica.Step.inv {r r' : Replica δ} (hstep : Replica.Step json dumps channel p r r' entries)
    (h : ReplicaInv dumps r) : ReplicaInv dumps r' := by
  rcases hstep.broadcaster with ⟨actions, hrun, hhanded⟩
  refine ⟨h.streams.run hrun, ?_⟩
  rw [run_notices hrun, h.told, hhanded]

theorem replicaInv_local (json : Json δ) (dumps : δ -> String) :
    SharedLog.LocalInvariant (liveFeed json dumps) Message.origin
      fun _ _ r => ReplicaInv dumps r where
  signed := fun _ _ _ _ _ _ hact => Replica.act_signed hact
  unsigned := outside_unsigned json
  own := fun _ _ _ _ _ _ h hact => (Replica.act_cases hact).inv h
  others := fun _ _ _ _ h _ => h

theorem replicaInv_initial (dumps : δ -> String) :
    ReplicaInv dumps (Replica.initial : Replica δ) where
  streams := ⟨[], rfl⟩
  told := rfl

variable {processes : Nat} {s : LiveFeed δ}

theorem replicaInv_of_reachable
    (h : Reachable (SharedLog.step (liveFeed json dumps)) (LiveFeed.initial processes) s) :
    SharedLog.Everywhere (fun _ _ r => ReplicaInv dumps r) s := by
  apply (replicaInv_local json dumps).everywhere _ h
  intro p r hp
  rw [List.eq_of_mem_replicate (List.mem_of_getElem? hp)]
  exact replicaInv_initial dumps

/-!
## Where a notification stems from
-/

/-- What the channel and the hand-offs owe to the calls of process `p`. -/
structure Issued (json : Json δ) (channel : List (Message δ)) (p : Nat) (proc : Process δ) :
    Prop where
  published : forall id body, Message.published p id body ∈ channel ->
    exists call data, proc.calls[id]? = some call ∧
      json.wire call.request.data = some data ∧ body = { call.request with data := data }
  handed : forall h, h ∈ proc.handed ->
    (exists index m, h.via = .channel index ∧ channel[index]? = some m ∧
        m.body = some h.notification) ∨
      exists id call, h.via = .direct id ∧ proc.calls[id]? = some call ∧
        h.notification = fallback json call.request

/-- A call keeps its request. -/
theorem Process.Step.request {proc proc' : Process δ}
    (h : Process.Step json channel p proc proc' entries) {id : Nat} {call : Call δ}
    (hcall : proc.calls[id]? = some call) :
    exists call', proc'.calls[id]? = some call' ∧ call'.request = call.request := by
  have hlt := (List.getElem?_eq_some_iff.mp hcall).1
  cases h with
  | broadcast request =>
      exact ⟨call, (List.getElem?_append_left hlt).trans hcall, rfl⟩
  | resume other call' published hcall' =>
      have hset : forall status, exists call'',
          (proc.calls.set other { call' with status := status })[id]? = some call'' ∧
            call''.request = call.request := by
        intro status
        by_cases hid : other = id
        · subst hid
          rw [hcall] at hcall'
          cases hcall'
          exact ⟨_, List.getElem?_set_self hlt, rfl⟩
        · exact ⟨call, (List.getElem?_set_ne hid).trans hcall, rfl⟩
      unfold Process.resume
      split
      · exact hset .relied
      · exact hset .told
  | receive next message =>
      rw [Process.deliver_eq]
      exact ⟨call, hcall, rfl⟩
  | _ => exact ⟨call, hcall, rfl⟩

theorem Issued.append {proc : Process δ} (h : Issued json channel p proc)
    (more : List (Message δ)) (hmore : forall m, m ∈ more -> m.origin ≠ some p) :
    Issued json (channel ++ more) p proc where
  published := by
    intro id body hmem
    rcases List.mem_append.mp hmem with hold | hnew
    · exact h.published id body hold
    · exact absurd rfl (hmore _ hnew)
  handed := by
    intro handoff hmem
    rcases h.handed handoff hmem with ⟨index, m, hvia, hm, hbody⟩ | hdirect
    · have hlt := (List.getElem?_eq_some_iff.mp hm).1
      exact Or.inl ⟨index, m, hvia, (List.getElem?_append_left hlt).trans hm, hbody⟩
    · exact Or.inr hdirect

theorem Issued.own {proc proc' : Process δ} (h : Issued json channel p proc)
    (hstep : Process.Step json channel p proc proc' entries) :
    Issued json (channel ++ entries) p proc' := by
  have hold : forall handoff, handoff ∈ proc.handed ->
      (exists index m, handoff.via = .channel index ∧ (channel ++ entries)[index]? = some m ∧
          m.body = some handoff.notification) ∨
        exists id call, handoff.via = .direct id ∧ proc'.calls[id]? = some call ∧
          handoff.notification = fallback json call.request := by
    intro handoff hmem
    rcases h.handed handoff hmem with ⟨index, m, hvia, hm, hbody⟩ | ⟨id, call, hvia, hcall, heq⟩
    · have hlt := (List.getElem?_eq_some_iff.mp hm).1
      exact Or.inl ⟨index, m, hvia, (List.getElem?_append_left hlt).trans hm, hbody⟩
    · rcases hstep.request hcall with ⟨call', hcall', hrequest⟩
      exact Or.inr ⟨id, call', hvia, hcall', by rw [heq, hrequest]⟩
  constructor
  · intro id body hmem
    have hcalled : exists call data, proc.calls[id]? = some call ∧
        json.wire call.request.data = some data ∧ body = { call.request with data := data } := by
      rcases List.mem_append.mp hmem with hbefore | hnew
      · exact h.published id body hbefore
      · cases hstep with
        | land other call data hcall hwire =>
            cases List.mem_singleton.mp hnew
            exact ⟨call, data, hcall, hwire, rfl⟩
        | _ => cases hnew
    rcases hcalled with ⟨call, data, hcall, hwire, hbody⟩
    rcases hstep.request hcall with ⟨call', hcall', hrequest⟩
    exact ⟨call', data, hcall', by rw [hrequest]; exact hwire, by rw [hrequest]; exact hbody⟩
  · intro handoff hmem
    cases hstep with
    | resume id call published hcall =>
        have hlt := (List.getElem?_eq_some_iff.mp hcall).1
        unfold Process.resume at hmem hold ⊢
        split at hmem
        · rename_i hrelies
          rw [if_pos hrelies] at hold ⊢
          exact hold handoff hmem
        · rename_i hrelies
          rw [if_neg hrelies] at hold ⊢
          rcases List.mem_append.mp hmem with hbefore | hnew
          · exact hold handoff hbefore
          · rw [List.mem_singleton.mp hnew]
            exact Or.inr ⟨id, _, rfl, List.getElem?_set_self hlt, rfl⟩
    | receive next message hconn hmessage =>
        rw [Process.deliver_eq] at hmem
        rcases List.mem_append.mp hmem with hbefore | hnew
        · have hkept := hold handoff hbefore
          rw [Process.deliver_eq] at hkept
          rw [Process.deliver_eq]
          exact hkept
        · rcases Option.map_eq_some_iff.mp (Option.mem_toList.mp hnew) with ⟨body, hbody, heq⟩
          rw [← heq]
          exact Or.inl ⟨next, message, rfl, by rw [List.append_nil]; exact hmessage, hbody⟩
    | _ => exact hold handoff hmem

theorem issued_local (json : Json δ) :
    SharedLog.LocalInvariant (fanout json) Message.origin (Issued json) where
  signed := fun _ _ _ _ _ _ hact => Process.act_signed hact
  unsigned := outside_unsigned json
  own := fun _ _ _ _ _ _ h hact => h.own (Process.act_cases hact)
  others := fun _ _ _ _ h hothers => h.append _ hothers

theorem issued_initial (json : Json δ) (p : Nat) : Issued json [] p Process.initial where
  published := by
    intro id body hmem
    cases hmem
  handed := by
    intro h hmem
    cases hmem

theorem issued_of_reachable {t : Fanout δ}
    (h : Reachable (SharedLog.step (fanout json)) (Fanout.initial processes) t) :
    SharedLog.Everywhere (Issued json) t := by
  apply (issued_local json).everywhere _ h
  intro p proc hp
  rw [List.eq_of_mem_replicate (List.mem_of_getElem? hp)]
  exact issued_initial json p

theorem orderInv_of_reachable {t : Fanout δ}
    (h : Reachable (SharedLog.step (fanout json)) (Fanout.initial processes) t) :
    SharedLog.Everywhere (fun log _ proc => OrderInv json log proc) t := by
  apply (orderInv_local json).everywhere _ h
  intro p proc hp
  rw [List.eq_of_mem_replicate (List.mem_of_getElem? hp)]
  exact orderInv_initial json

/-!
## What a stream shows
-/

/-- What a process handed over for a tenant. -/
def handoffsFor (tenant : String) (handed : List (Handoff δ)) : List (Handoff δ) :=
  handed.filter fun h => h.notification.tenant = tenant

theorem enqueued_text (tenant : String) (e : Event) :
    (enqueued tenant e).bind Item.text =
      e.notice.bind fun n => if n.1 = tenant then some n.2 else none := by
  cases e with
  | notified t text =>
      by_cases ht : t = tenant <;> simp [enqueued, Event.notice, Item.text, ht]
  | closedAll => rfl
  | _ => rfl

/-- What was notified to a tenant are the texts of what was handed over for it. -/
theorem notified_texts {es : List Event} {handed : List (Handoff δ)}
    (h : es.filterMap Event.notice = handed.map (Handoff.notice dumps)) (tenant : String) :
    (es.filterMap (enqueued tenant)).filterMap Item.text =
      (handoffsFor tenant handed).map (Handoff.text dumps) := by
  have hnotices : (es.filterMap (enqueued tenant)).filterMap Item.text =
      (es.filterMap Event.notice).filterMap
        fun n => if n.1 = tenant then some n.2 else none := by
    rw [List.filterMap_filterMap, List.filterMap_filterMap]
    apply List.filterMap_congr
    intro e _
    exact enqueued_text tenant e
  rw [hnotices, h]
  clear hnotices h
  induction handed with
  | nil => rfl
  | cons handoff rest ih =>
      by_cases ht : handoff.notification.tenant = tenant <;>
        simp_all [handoffsFor, Handoff.notice]

/-- A stream shows a stretch of what its process handed over for its tenant. -/
theorem ReplicaInv.shown {r : Replica δ} (h : ReplicaInv dumps r) {id : Nat} {st : Stream}
    (hst : r.broadcaster.streams[id]? = some st) :
    exists shown, shown <:+: handoffsFor st.tenant r.process.handed ∧
      yieldsOf id r.broadcaster.log = shown.map (Handoff.text dumps) := by
  have hyields : yieldsOf id r.broadcaster.log <+: messagesSince id st.tenant r.broadcaster.log :=
    ((inv_of_reachable h.streams).accounts.accounted id st hst).yields.1.trans (beforeClose_isPrefix _)
  have hsince : messagesSince id st.tenant r.broadcaster.log <:+
      (handoffsFor st.tenant r.process.handed).map (Handoff.text dumps) := by
    rw [← notified_texts h.told st.tenant]
    exact ((List.dropWhile_suffix _).filterMap _).filterMap _
  rcases hyields with ⟨after, hafter⟩
  rcases hsince with ⟨before, hbefore⟩
  rw [← hafter, ← List.append_assoc] at hbefore
  rcases List.map_eq_append_iff.mp hbefore.symm with ⟨front, last, hsplit, hfront, _⟩
  rcases List.map_eq_append_iff.mp hfront with ⟨first, shown, hsplit', _, hshown⟩
  refine ⟨shown, ⟨first, last, ?_⟩, hshown.symm⟩
  rw [hsplit, hsplit']

/-- Stream `id` of process `p`. -/
structure StreamAt (s : LiveFeed δ) (p id : Nat) (r : Replica δ) (st : Stream) : Prop where
  replica : s.agents[p]? = some r
  stream : r.broadcaster.streams[id]? = some st

/-- For each stream of each process, the hand-offs it shows. -/
structure InFeedOrder [DecidableEq δ] (json : Json δ) (dumps : δ -> String) (s : LiveFeed δ)
    (shown : Nat -> Nat -> List (Handoff δ)) : Prop where
  texts : forall p id r st, StreamAt s p id r st ->
    yieldsOf id r.broadcaster.log = (shown p id).map (Handoff.text dumps)
  /-- Without a gap. -/
  stretch : forall p id r st, StreamAt s p id r st ->
    shown p id <:+: handoffsFor st.tenant r.process.handed
  published : forall p id r st event, StreamAt s p id r st -> event ∈ refetchEvents ->
    (payloadHandoffs json event (shown p id)).Sublist (channelHandoffs s.log)
  agreement : forall p i r st q j r' st' event a b, StreamAt s p i r st ->
    StreamAt s q j r' st' -> event ∈ refetchEvents ->
      [a, b].Sublist (payloadHandoffs json event (shown p i)) ->
        ¬ [b, a].Sublist (payloadHandoffs json event (shown q j))

/-- The hand-offs that a stream shows, whatever its process and number. -/
theorem exists_shown
    (hreach : Reachable (SharedLog.step (liveFeed json dumps)) (LiveFeed.initial processes) s)
    (p id : Nat) :
    exists shown, forall r st, StreamAt s p id r st ->
      yieldsOf id r.broadcaster.log = shown.map (Handoff.text dumps) ∧
        shown <:+: handoffsFor st.tenant r.process.handed := by
  by_cases hexists : exists r st, StreamAt s p id r st
  · rcases hexists with ⟨r, st, hst⟩
    rcases (replicaInv_of_reachable hreach p r hst.replica).shown hst.stream with
      ⟨shown, hstretch, hyields⟩
    refine ⟨shown, ?_⟩
    intro r' st' hst'
    have hr := hst.replica.symm.trans hst'.replica
    cases hr
    have hstream := hst.stream.symm.trans hst'.stream
    cases hstream
    exact ⟨hyields, hstretch⟩
  · exact ⟨[], fun r st hst => absurd ⟨r, st, hst⟩ hexists⟩

/-- In every run, each stream shows without a gap what its process was handed for its
tenant, the payloads of refetch events in publish order and each at most once, so that
two streams of whichever processes never show two payloads in opposite orders. -/
theorem streams_in_feed_order [DecidableEq δ] (json : Json δ) (dumps : δ -> String)
    (processes : Nat) (s : LiveFeed δ)
    (hreach : Reachable (SharedLog.step (liveFeed json dumps)) (LiveFeed.initial processes) s) :
    exists shown, InFeedOrder json dumps s shown := by
  choose shown hshown using exists_shown hreach
  have hpublished : forall p id r st event, StreamAt s p id r st -> event ∈ refetchEvents ->
      (payloadHandoffs json event (shown p id)).Sublist (channelHandoffs s.log) := by
    intro p id r st event hst hevent
    have hp : (s.map Replica.process).agents[p]? = some r.process :=
      SharedLog.System.map_agent hst.replica
    have horder := orderInv_of_reachable (fanout_reachable hreach) p r.process hp
    have hsub : (shown p id).Sublist r.process.handed :=
      (hshown p id r st hst).2.sublist.trans List.filter_sublist
    exact (hsub.filter _).trans (horder.payloads_sublist hevent)
  refine ⟨shown, fun p id r st hst => (hshown p id r st hst).1,
    fun p id r st hst => (hshown p id r st hst).2, hpublished, ?_⟩
  intro p i r st q j r' st' event a b hst hst' hevent hab hba
  have hfirst := (channelHandoffs_pairwise s.log).sublist
    (hab.trans (hpublished p i r st event hst hevent))
  have hsecond := (channelHandoffs_pairwise s.log).sublist
    (hba.trans (hpublished q j r' st' event hst' hevent))
  exact (List.pairwise_pair.mp hfirst).asymm (List.pairwise_pair.mp hsecond)

/-- Both processes have a stream; only process 1 is subscribed. -/
def openingRun : List (SharedLog.Action Unit (FeedAct String)) :=
  [.agent 0 (.stream (.subscribe "keep")), .agent 1 (.stream (.subscribe "keep")),
    .agent 1 (.fanout .subscribe), .agent 1 (.fanout .register), .agent 1 (.fanout .acknowledge)]

/-- Process 0 tells its stream directly; process 1 receives the message. -/
def showingRun : List (SharedLog.Action Unit (FeedAct String)) :=
  [.agent 0 (.fanout (.broadcast (pollAlerts "[1]"))), .agent 0 (.fanout (.land 0)),
    .agent 0 (.fanout (.published 0)), .agent 1 (.fanout .receive),
    .agent 0 (.stream (.resume 0)), .agent 0 (.stream (.take 0)),
    .agent 0 (.stream (.deliver 0)), .agent 1 (.stream (.resume 0)),
    .agent 1 (.stream (.take 0)), .agent 1 (.stream (.deliver 0))]

def openStream : Stream where
  tenant := "keep"
  queue := []
  phase := .suspended

/-- The stream of "keep" after it showed one text. -/
def shownOnce (text : String) : Broadcaster where
  connections := [("keep", [0])]
  draining := false
  streams := [openStream]
  log := [.registered 0 "keep", .connected 0, .notified "keep" text, .yielded 0 text]

def askedReplica : Replica String where
  process :=
    { (Process.initial : Process String) with
      calls := [{ request := pollAlerts "[1]", sampled := none, status := .told }]
      handed := [{ notification := pollAlerts "{}", via := .direct 0 }] }
  broadcaster := shownOnce (formatSse id "poll-alerts" "{}")

def hearingReplica : Replica String where
  process :=
    { (Process.initial : Process String) with
      subscribed := true
      subscription := 1
      connection := .live 1
      handed := [{ notification := pollAlerts "[1]", via := .channel 0 }] }
  broadcaster := shownOnce (formatSse id "poll-alerts" "[1]")

def feedState : LiveFeed String where
  log := [.published 0 0 (pollAlerts "[1]")]
  agents := [askedReplica, hearingReplica]

theorem feedState_in_feed_order : exists shown, InFeedOrder textJson id feedState shown :=
  streams_in_feed_order textJson id 2 feedState ⟨openingRun ++ showingRun, rfl⟩

end Sse
end KeepGateway
