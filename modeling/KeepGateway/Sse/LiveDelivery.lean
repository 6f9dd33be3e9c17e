import KeepGateway.Sse.LiveFeed

/-!
# What an open stream does not miss

From the moment a stream is registered, everything its process is handed for its
tenant goes through its queue.  Once it has emptied the queue, it has shown each
`broadcast()` of its process since, unless the subscription fell short of it, and
each message of the channel if the subscription stood all the time.
-/

namespace KeepGateway
namespace Sse

open Run

variable {δ : Type} {json : Json δ} {dumps : δ -> String}

/-!
## The same process later
-/

/-- A later state of a process. -/
structure Later (dumps : δ -> String) (r r' : Replica δ) : Prop where
  broadcaster : exists actions,
    run (Broadcaster.step dumps) r.broadcaster actions = some r'.broadcaster
  handed : r.process.handed <+: r'.process.handed

theorem later_local (json : Json δ) (dumps : δ -> String) (s : LiveFeed δ) :
    SharedLog.LocalInvariant (liveFeed json dumps) Message.origin
      fun _ p r' => forall r, s.agents[p]? = some r -> Later dumps r r' where
  signed := fun _ _ _ _ _ _ hact => Replica.act_signed hact
  unsigned := outside_unsigned json
  own := by
    intro log p r' a r'' entries h hact r hr
    have hstep := Replica.act_cases hact
    rcases h r hr with ⟨⟨before, hbefore⟩, hhanded⟩
    rcases hstep.broadcaster with ⟨after, hafter, _⟩
    exact ⟨⟨before ++ after, run_append.mpr ⟨_, hbefore, hafter⟩⟩, hhanded.trans hstep.handed⟩
  others := fun _ _ _ _ h _ => h

theorem later_of_run {s s' : LiveFeed δ} {actions : List (SharedLog.Action Unit (FeedAct δ))}
    (hrun : run (SharedLog.step (liveFeed json dumps)) s actions = some s') {p : Nat}
    {r r' : Replica δ} (hr : s.agents[p]? = some r) (hr' : s'.agents[p]? = some r') :
    Later dumps r r' := by
  have hbegin : SharedLog.Everywhere
      (fun _ q r' => forall r, s.agents[q]? = some r -> Later dumps r r') s := by
    intro q r' hq r hr
    rw [hq] at hr
    cases hr
    exact ⟨⟨[], rfl⟩, List.prefix_refl _⟩
  exact (later_local json dumps s).everywhere hbegin ⟨actions, hrun⟩ p r' hr' r hr

theorem StreamStep.tenant {taken : Bool} {st st' : Stream} (h : StreamStep taken st st') :
    st'.tenant = st.tenant := by
  cases h <;> rfl

/-- A stream stays, under its tenant. -/
theorem run_stream {s s' : Broadcaster} {actions : List (Action δ)} (h : Inv s)
    (hrun : run (Broadcaster.step dumps) s actions = some s') {id : Nat} {st : Stream}
    (hst : s.streams[id]? = some st) :
    s.log <+: s'.log ∧ exists st', s'.streams[id]? = some st' ∧ st'.tenant = st.tenant := by
  induction actions generalizing s st with
  | nil =>
      cases hrun
      exact ⟨List.prefix_refl _, st, hst, rfl⟩
  | cons a rest ih =>
      rcases run_cons.mp hrun with ⟨t, hstep, hrest⟩
      rcases step_stream h hstep with ⟨hlog, hstreams⟩
      rcases hstreams id st hst with ⟨stt, hstt, hstreamstep⟩
      rcases ih (h.step dumps hstep) hrest hstt with ⟨hlog', st', hst', htenant⟩
      exact ⟨hlog.trans hlog', st', hst', htenant.trans hstreamstep.tenant⟩

/-!
## Through the queue
-/

/-- Open, with everything that was enqueued yielded. -/
structure Stream.Emptied (st : Stream) : Prop where
  live : st.phase.isLive = true
  held : st.phase.held = []
  queue : st.queue = []

/-- What a stream has shown since an earlier state. -/
def shownSince (id : Nat) (r r' : Replica δ) : List String :=
  (yieldsOf id r'.broadcaster.log).drop (yieldsOf id r.broadcaster.log).length

def handedSince (r r' : Replica δ) : List (Handoff δ) :=
  r'.process.handed.drop r.process.handed.length

theorem filterMap_text_message (texts : List String) :
    (texts.map Item.message).filterMap Item.text = texts := by
  rw [List.filterMap_map]
  exact List.filterMap_some

/-- A stream that has emptied its queue has shown, after what was still queued then,
everything its process was handed for its tenant since. -/
theorem shownSince_emptied {r r' : Replica δ} (h : ReplicaInv dumps r)
    (hlater : Later dumps r r') (h' : ReplicaInv dumps r') {id : Nat} {st st' : Stream}
    (hst : r.broadcaster.streams[id]? = some st) (hlive : st.phase.isLive = true)
    (hst' : r'.broadcaster.streams[id]? = some st') (hemptied : st'.Emptied) :
    shownSince id r r' = (st.phase.held ++ st.queue).filterMap Item.text ++
      (handoffsFor st.tenant (handedSince r r')).map (Handoff.text dumps) := by
  have hinv := inv_of_reachable h.streams
  have hinv' := inv_of_reachable h'.streams
  rcases hlater.broadcaster with ⟨actions, hrun⟩
  rcases run_stream hinv hrun hst with ⟨⟨es, hes⟩, st'', hst'', htenant⟩
  rw [hst'] at hst''
  cases hst''
  rcases (accounted_live hlive).mp (hinv.accounts.accounted id st hst) with ⟨hreg, _, hitems⟩
  rcases (accounted_live hemptied.live).mp (hinv'.accounts.accounted id st' hst') with
    ⟨_, _, hitems'⟩
  rcases hlater.handed with ⟨more, hmore⟩
  have hsince : handedSince r r' = more := by
    rw [handedSince, ← hmore, List.drop_left]
  have hnotices : es.filterMap Event.notice = more.map (Handoff.notice dumps) := by
    have htold := h'.told
    rw [← hes, ← hmore, List.filterMap_append, List.map_append, h.told] at htold
    exact List.append_cancel_left htold
  have hyields : yieldsOf id r'.broadcaster.log = yieldsOf id r.broadcaster.log ++
      ((st.phase.held ++ st.queue).filterMap Item.text ++
        (handoffsFor st.tenant more).map (Handoff.text dumps)) := by
    rw [← hes, itemsSince_append hreg, hes, htenant, ← hitems, hemptied.held, hemptied.queue,
      List.append_nil, List.append_nil] at hitems'
    have htexts := congrArg (List.filterMap Item.text) hitems'
    rw [List.filterMap_append, List.filterMap_append, filterMap_text_message,
      filterMap_text_message, notified_texts hnotices, List.append_assoc] at htexts
    exact htexts
  rw [shownSince, hyields, List.drop_left, hsince]

/-!
## Broadcasts of the process
-/

/-- The subscription that the call left the delivery to stands, or stopped, at or before
the message. -/
def Outstanding (channel : List (Message δ)) (p : Nat) (proc : Process δ) (id : Nat)
    (call : Call δ) : Prop :=
  call.status = .relied ∧
    exists n cursor index, call.sampled = some n ∧ proc.cursors[n - 1]? = some cursor ∧
      LandedAt channel p id index ∧ cursor <= index

variable {channel : List (Message δ)} {p : Nat} {proc : Process δ}

theorem DeliveryInv.notified_or_outstanding (h : DeliveryInv channel p proc) {id : Nat}
    {call : Call δ} (hcall : proc.calls[id]? = some call) (hreturned : call.Returned) :
    Notified channel p proc.handed id call ∨ Outstanding channel p proc id call := by
  have hdelivers := h.delivers id call hcall
  rcases hreturned with htold | hrelied
  · exact Or.inl (hdelivers.told htold)
  · rcases hdelivers.relied hrelied with ⟨n, index, hn, hlanded⟩
    rcases hdelivers.sampled n hn with ⟨hpos, hle⟩
    have hcursor := List.getElem?_eq_getElem (show n - 1 < proc.cursors.length by omega)
    by_cases hpassed : index < proc.cursors[n - 1]
    · exact Or.inl (hdelivers.passed n _ index hn hcursor hlanded hpassed)
    · exact Or.inr ⟨hrelied, n, _, index, hn, hcursor, hlanded, Nat.le_of_not_lt hpassed⟩

/-- What was handed over before the call does not stem from it. -/
theorem not_causedBy_of_handed {s s' : LiveFeed δ} (hgrown : s.log <+: s'.log)
    {proc : Process δ} (hissued : Issued json s.log p proc) (hinv : DeliveryInv s.log p proc)
    {h : Handoff δ} (hmem : h ∈ proc.handed) {id : Nat} (hid : proc.calls.length <= id) :
    ¬ CausedBy s'.log p id h := by
  intro hcaused
  rcases hissued.handed h hmem with ⟨index, m, hvia, hm, _⟩ | ⟨call, made, hvia, hcall, _⟩
  · rcases hcaused with hdirect | ⟨index', hvia', m', hm', hfrom⟩
    · rw [hvia] at hdirect
      cases hdirect
    · rw [hvia] at hvia'
      cases hvia'
      rcases hgrown with ⟨rest, hrest⟩
      rw [← hrest, List.getElem?_append_left (List.getElem?_eq_some_iff.mp hm).1, hm] at hm'
      cases hm'
      exact Nat.not_lt.mpr hid (hinv.issued id index ⟨m, hm, hfrom⟩)
  · rcases hcaused with hdirect | ⟨index', hvia', _⟩
    · rw [hvia] at hdirect
      cases hdirect
      exact Nat.not_lt.mpr hid (List.getElem?_eq_some_iff.mp hcall).1
    · rw [hvia] at hvia'
      cases hvia'

/-- A hand-off that stems from a call carries the data of its request. -/
theorem data_of_causedBy (hissued : Issued json channel p proc) {h : Handoff δ}
    (hmem : h ∈ proc.handed) {id : Nat} {call : Call δ} (hcall : proc.calls[id]? = some call)
    (hcaused : CausedBy channel p id h) :
    json.wire call.request.data = some h.notification.data ∨
      h.notification.data = (fallback json call.request).data := by
  rcases hissued.handed h hmem with ⟨index, m, hvia, hm, hbody⟩ | ⟨other, made, hvia, hmade, heq⟩
  · rcases hcaused with hdirect | ⟨index', hvia', m', hm', hfrom⟩
    · rw [hvia] at hdirect
      cases hdirect
    · rw [hvia] at hvia'
      cases hvia'
      rw [hm] at hm'
      cases hm'
      cases m with
      | malformed => cases hfrom
      | published origin number body =>
          cases hbody
          rcases Bool.and_eq_true_iff.mp hfrom with ⟨horigin, hnumber⟩
          have horigin' : origin = p := by simpa using horigin
          have hnumber' : number = id := by simpa using hnumber
          subst horigin' hnumber'
          rcases hissued.published number _ (List.mem_of_getElem? hm) with
            ⟨made, data, hmade, hwire, hbody⟩
          rw [hcall] at hmade
          cases hmade
          left
          rw [hbody]
          exact hwire
  · rcases hcaused with hdirect | ⟨index', hvia', _⟩
    · rw [hvia] at hdirect
      cases hdirect
      rw [hcall] at hmade
      cases hmade
      right
      rw [heq]
    · rw [hvia] at hvia'
      cases hvia'

/-- A stream that was open when its process made a call and has emptied its queue after
the call returned has shown the notification since, unless the call left it to a
subscription that has not come to the message. -/
theorem open_stream_shows_call (json : Json δ) (dumps : δ -> String) (processes : Nat)
    (s s' : LiveFeed δ) (actions : List (SharedLog.Action Unit (FeedAct δ))) (p stream id : Nat)
    (r r' : Replica δ) (st st' : Stream) (call : Call δ)
    (hreach : Reachable (SharedLog.step (liveFeed json dumps)) (LiveFeed.initial processes) s)
    (hrun : run (SharedLog.step (liveFeed json dumps)) s actions = some s')
    (hst : StreamAt s p stream r st) (hlive : st.phase.isLive = true)
    (hst' : StreamAt s' p stream r' st') (hemptied : st'.Emptied)
    (hcall : r'.process.calls[id]? = some call) (hnew : r.process.calls.length <= id)
    (hreturned : call.Returned) (htenant : call.request.tenant = st.tenant) :
    (exists data, formatSse dumps call.request.event data ∈ shownSince stream r r' ∧
        (json.wire call.request.data = some data ∨
          data = (fallback json call.request).data)) ∨
      Outstanding s'.log p r'.process id call := by
  have hreach' := hreach.run hrun
  have hlater := later_of_run hrun hst.replica hst'.replica
  have hproc : (s.map Replica.process).agents[p]? = some r.process :=
    SharedLog.System.map_agent hst.replica
  have hproc' : (s'.map Replica.process).agents[p]? = some r'.process :=
    SharedLog.System.map_agent hst'.replica
  have hissued := issued_of_reachable (fanout_reachable hreach) p _ hproc
  have hissued' := issued_of_reachable (fanout_reachable hreach') p _ hproc'
  have hinv := deliveryInv_of_reachable (fanout_reachable hreach) p _ hproc
  have hinv' := deliveryInv_of_reachable (fanout_reachable hreach') p _ hproc'
  rcases hinv'.notified_or_outstanding hcall hreturned with hnotified | houtstanding
  · left
    rcases hnotified with ⟨handoff, hmem, hcaused, haddress⟩
    have hsince : handoff ∈ handedSince r r' := by
      rcases hlater.handed with ⟨more, hmore⟩
      rw [handedSince, ← hmore, List.drop_left]
      rw [← hmore] at hmem
      rcases List.mem_append.mp hmem with hbefore | hafter
      · exact absurd hcaused (not_causedBy_of_handed (SharedLog.run_log_prefix hrun) hissued hinv
          hbefore hnew)
      · exact hafter
    refine ⟨handoff.notification.data, ?_, data_of_causedBy hissued' hmem hcall hcaused⟩
    rw [shownSince_emptied (replicaInv_of_reachable hreach p r hst.replica) hlater
      (replicaInv_of_reachable hreach' p r' hst'.replica) hst.stream hlive hst'.stream hemptied]
    apply List.mem_append_right
    apply List.mem_map.mpr
    refine ⟨handoff, List.mem_filter.mpr ⟨hsince, ?_⟩, ?_⟩
    · exact decide_eq_true (haddress.1.trans htenant)
    · rw [Handoff.text, haddress.2]
  · exact Or.inr houtstanding

/-- The stream of "keep" before anything was notified. -/
def openBroadcaster : Broadcaster where
  connections := [("keep", [0])]
  draining := false
  streams := [openStream]
  log := [.registered 0 "keep", .connected 0]

def silentReplica : Replica String where
  process := .initial
  broadcaster := openBroadcaster

def listeningReplica : Replica String where
  process :=
    { (Process.initial : Process String) with
      subscribed := true
      subscription := 1
      connection := .live 0 }
  broadcaster := openBroadcaster

def openFeed : LiveFeed String where
  log := []
  agents := [silentReplica, listeningReplica]

theorem feedState_shows_call :
    (exists data, formatSse id "poll-alerts" data ∈ shownSince 0 silentReplica askedReplica ∧
        (textJson.wire "[1]" = some data ∨
          data = (fallback textJson (pollAlerts "[1]")).data)) ∨
      Outstanding feedState.log 0 askedReplica.process 0
        { request := pollAlerts "[1]", sampled := none, status := .told } :=
  open_stream_shows_call textJson id 2 openFeed feedState showingRun 0 0 0 silentReplica
    askedReplica openStream openStream
    { request := pollAlerts "[1]", sampled := none, status := .told } ⟨openingRun, rfl⟩ rfl
    ⟨rfl, rfl⟩ rfl ⟨rfl, rfl⟩ ⟨rfl, rfl, rfl⟩ rfl (Nat.le_refl _) (Or.inl rfl) rfl

/-!
## Messages of the channel
-/

def Via.since (first : Nat) : Via -> Bool
  | .channel index => first <= index
  | .direct _ => false

/-- What the channel hands over from a position on. -/
def handoffsFrom (first : Nat) (channel : List (Message δ)) : List (Handoff δ) :=
  (channelHandoffs channel).filter fun h => h.via.since first

/-- While the subscription of `before` stands, every message is handed over. -/
structure Hears (channel : List (Message δ)) (first : Nat) (before proc : Process δ) : Prop where
  later : before.subscription <= proc.subscription
  bounded : forall next, proc.connection.position = some next -> next <= channel.length
  heard : proc.subscription = before.subscription -> forall next, proc.connection = .live next ->
    first <= next ∧ exists more, proc.handed = before.handed ++ more ∧
      fromChannel more = handoffsFrom first (channel.take next)

variable {first : Nat} {before : Process δ}

theorem Hears.append (h : Hears channel first before proc) (entries : List (Message δ)) :
    Hears (channel ++ entries) first before proc where
  later := h.later
  bounded := by
    intro next hnext
    rw [List.length_append]
    exact Nat.le_trans (h.bounded next hnext) (Nat.le_add_right _ _)
  heard := by
    intro hsame next hnext
    rw [List.take_append_of_le_length (h.bounded next (by rw [hnext]; rfl))]
    exact h.heard hsame next hnext

/-- A step after which the process reads nothing from the channel. -/
theorem Hears.silent (h : Hears channel first before proc) {proc' : Process δ}
    (hsubscription : proc'.subscription = proc.subscription)
    (hposition : forall next, proc'.connection.position = some next -> next <= channel.length)
    (hconn : forall next, proc'.connection ≠ .live next) : Hears channel first before proc' where
  later := hsubscription ▸ h.later
  bounded := hposition
  heard := fun _ next hnext => absurd hnext (hconn next)

/-- A new subscription is not the one before. -/
theorem Hears.acknowledge (h : Hears channel first before proc) {next : Nat}
    (hconn : proc.connection = .registered next) :
    Hears channel first before
      { proc with
        subscription := proc.subscription + 1
        subscribed := true
        connection := .live next } where
  later := Nat.le_succ_of_le h.later
  bounded := by
    intro position hposition
    cases hposition
    exact h.bounded next (by rw [hconn]; rfl)
  heard := by
    intro hsame
    have hlater := h.later
    change proc.subscription + 1 = before.subscription at hsame
    omega

theorem Hears.resume (h : Hears channel first before proc) (id : Nat) (call : Call δ)
    (published : Bool) : Hears channel first before (proc.resume json id call published) := by
  unfold Process.resume
  split
  · exact ⟨h.later, h.bounded, h.heard⟩
  · refine ⟨h.later, h.bounded, ?_⟩
    intro hsame next hnext
    rcases h.heard hsame next hnext with ⟨hle, more, hmore, hheard⟩
    refine ⟨hle, more ++ [{ notification := fallback json call.request, via := .direct id }],
      ?_, ?_⟩
    · show proc.handed ++ _ = _
      rw [hmore, List.append_assoc]
    · unfold fromChannel at hheard ⊢
      rw [List.filter_append, hheard]
      exact List.append_nil _

theorem handoffsFrom_take_succ {next : Nat} {m : Message δ} (hle : first <= next)
    (hm : channel[next]? = some m) :
    handoffsFrom first (channel.take (next + 1)) =
      handoffsFrom first (channel.take next) ++ (Message.handoff (m, next)).toList := by
  have hlt := (List.getElem?_eq_some_iff.mp hm).1
  have htake : channel.take (next + 1) = channel.take next ++ [m] := by
    rw [List.take_add_one, hm]
    rfl
  unfold handoffsFrom
  rw [htake, channelHandoffs_snoc, List.length_take, Nat.min_eq_left (Nat.le_of_lt hlt),
    List.filter_append]
  congr 1
  cases hbody : m.body <;> simp [Message.handoff, hbody, Via.since, hle]

theorem Hears.receive (h : Hears channel first before proc) {next : Nat} {m : Message δ}
    (hconn : proc.connection = .live next) (hm : channel[next]? = some m) :
    Hears channel first before { proc.deliver next m with connection := .live (next + 1) } := by
  have hlt := (List.getElem?_eq_some_iff.mp hm).1
  rw [Process.deliver_eq]
  refine ⟨h.later, ?_, ?_⟩
  · intro position hposition
    cases hposition
    exact hlt
  · intro hsame position hposition
    cases hposition
    rcases h.heard hsame next hconn with ⟨hle, more, hmore, hheard⟩
    refine ⟨Nat.le_succ_of_le hle, more ++ (Message.handoff (m, next)).toList, ?_, ?_⟩
    · show proc.handed ++ _ = _
      rw [hmore, List.append_assoc]
      rfl
    · rw [handoffsFrom_take_succ hle hm, ← hheard]
      unfold fromChannel
      rw [List.filter_append]
      congr 1
      cases hbody : m.body <;> simp [Message.handoff, hbody, Via.isChannel]

theorem Hears.own {proc' : Process δ} {entries : List (Message δ)}
    (h : Hears channel first before proc) (hstep : Process.Step json channel p proc proc' entries) :
    Hears (channel ++ entries) first before proc' := by
  apply Hears.append
  cases hstep with
  | broadcast request => exact ⟨h.later, h.bounded, h.heard⟩
  | land id call data => exact h
  | resume id call published => exact h.resume id call published
  | subscribe hconn =>
      exact h.silent rfl (fun next hnext => by cases hnext) fun next hnext => by cases hnext
  | register hconn =>
      refine h.silent rfl ?_ fun next hnext => by cases hnext
      intro next hnext
      cases hnext
      exact Nat.le_refl _
  | acknowledge next hconn => exact h.acknowledge hconn
  | receive next m hconn hm => exact h.receive hconn hm
  | die next hconn =>
      exact h.silent rfl (fun next hnext => by cases hnext) fun next hnext => by cases hnext
  | lose hconn =>
      exact h.silent rfl (fun next hnext => by cases hnext) fun next hnext => by cases hnext

/-- A process hears on from where its connection stands. -/
theorem OrderInv.hears (h : OrderInv json channel proc) (hconn : proc.connection = .live first) :
    Hears channel first proc proc := by
  rcases h.inOrder with ⟨seen, hseen⟩
  refine ⟨Nat.le_refl _, fun next hnext => (hseen.position next hnext).2, ?_⟩
  intro _ next hnext
  rw [hconn] at hnext
  cases hnext
  refine ⟨Nat.le_refl _, [], (List.append_nil _).symm, ?_⟩
  symm
  apply List.filter_eq_nil_iff.mpr
  intro handoff hmem
  rcases via_of_mem_channelHandoffs hmem with ⟨index, hvia, hlt⟩
  rw [List.length_take] at hlt
  simp only [hvia, Via.since, decide_eq_true_eq]
  omega

theorem hears_local (json : Json δ) (t : Fanout δ) :
    SharedLog.LocalInvariant (fanout json) Message.origin
      fun log p proc => forall before first, t.agents[p]? = some before ->
        before.connection = .live first -> Hears log first before proc where
  signed := fun _ _ _ _ _ _ hact => Process.act_signed hact
  unsigned := outside_unsigned json
  own := fun _ _ _ _ _ _ h hact before first hbefore hconn =>
    (h before first hbefore hconn).own (Process.act_cases hact)
  others := fun _ _ _ _ h _ before first hbefore hconn => (h before first hbefore hconn).append _

/-- A stream that was open while the subscription of its process stood, and has emptied
its queue with the process caught up, has shown since every message of the channel for
its tenant, in publish order. -/
theorem open_stream_shows_channel (json : Json δ) (dumps : δ -> String) (processes : Nat)
    (s s' : LiveFeed δ) (actions : List (SharedLog.Action Unit (FeedAct δ)))
    (p stream first : Nat) (r r' : Replica δ) (st st' : Stream)
    (hreach : Reachable (SharedLog.step (liveFeed json dumps)) (LiveFeed.initial processes) s)
    (hrun : run (SharedLog.step (liveFeed json dumps)) s actions = some s')
    (hst : StreamAt s p stream r st) (hlive : st.phase.isLive = true)
    (hconn : r.process.connection = .live first) (hst' : StreamAt s' p stream r' st')
    (hemptied : st'.Emptied) (hcaught : CaughtUp s'.log r'.process)
    (hsame : r'.process.subscription = r.process.subscription) :
    ((handoffsFor st.tenant (handoffsFrom first s'.log)).map (Handoff.text dumps)).Sublist
      (shownSince stream r r') := by
  have hlater := later_of_run hrun hst.replica hst'.replica
  have hproc : (s.map Replica.process).agents[p]? = some r.process :=
    SharedLog.System.map_agent hst.replica
  have hproc' : (s'.map Replica.process).agents[p]? = some r'.process :=
    SharedLog.System.map_agent hst'.replica
  have hears : Hears s'.log first r.process r'.process := by
    have hbegin : SharedLog.Everywhere (fun log p proc => forall before first,
        (s.map Replica.process).agents[p]? = some before -> before.connection = .live first ->
          Hears log first before proc) (s.map Replica.process) := by
      intro q proc hq before first hbefore hlive
      rw [hq] at hbefore
      cases hbefore
      exact (orderInv_of_reachable (fanout_reachable hreach) q proc hq).hears hlive
    have hevery := (hears_local json (s.map Replica.process)).everywhere hbegin
      ((liveFeed_simulates json dumps).reachable ⟨actions, hrun⟩)
    exact hevery p _ hproc' _ first hproc hconn
  rcases hears.heard hsame _ hcaught.2 with ⟨_, more, hmore, hheard⟩
  rw [List.take_length] at hheard
  have hsince : handedSince r r' = more := by
    rw [handedSince, hmore, List.drop_left]
  rw [shownSince_emptied (replicaInv_of_reachable hreach p r hst.replica) hlater
    (replicaInv_of_reachable (hreach.run hrun) p r' hst'.replica) hst.stream hlive hst'.stream
    hemptied, hsince, ← hheard]
  apply List.Sublist.trans _ (List.sublist_append_right _ _)
  exact (List.filter_sublist.filter _).map _

theorem feedState_shows_channel :
    ((handoffsFor "keep" (handoffsFrom 0 feedState.log)).map (Handoff.text id)).Sublist
      (shownSince 0 listeningReplica hearingReplica) :=
  open_stream_shows_channel textJson id 2 openFeed feedState showingRun 1 0 0 listeningReplica
    hearingReplica openStream openStream ⟨openingRun, rfl⟩ rfl ⟨rfl, rfl⟩ rfl rfl ⟨rfl, rfl⟩
    ⟨rfl, rfl, rfl⟩ ⟨rfl, rfl⟩ rfl

end Sse
end KeepGateway
