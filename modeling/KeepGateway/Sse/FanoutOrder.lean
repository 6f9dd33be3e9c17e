import KeepGateway.Sse.Fanout
import Mathlib.Data.List.Induction

/-!
# Publish order

The channel hands each process a subsequence of the published messages, since a
new subscription starts behind all earlier ones.  What a process tells its own
streams directly carries no payload for a refetch event, so it cannot disturb
that order.
-/

namespace KeepGateway
namespace Sse

open Run

variable {δ : Type}

/-!
## The channel as hand-offs
-/

def Message.handoff : Message δ × Nat -> Option (Handoff δ)
  | (message, index) =>
      message.body.map fun body => { notification := body, via := .channel index }

/-- What the channel hands a process that misses no message. -/
def channelHandoffs (channel : List (Message δ)) : List (Handoff δ) :=
  channel.zipIdx.filterMap Message.handoff

def Via.isChannel : Via -> Bool
  | channel _ => true
  | direct _ => false

/-- `a` was published before `b`. -/
def Handoff.Precedes (a b : Handoff δ) : Prop :=
  exists i j, a.via = .channel i ∧ b.via = .channel j ∧ i < j

theorem channelHandoffs_append (channel entries : List (Message δ)) :
    channelHandoffs channel <+: channelHandoffs (channel ++ entries) := by
  unfold channelHandoffs
  rw [List.zipIdx_append, List.filterMap_append]
  exact List.prefix_append _ _

theorem channelHandoffs_snoc (channel : List (Message δ)) (m : Message δ) :
    channelHandoffs (channel ++ [m]) =
      channelHandoffs channel ++ (Message.handoff (m, channel.length)).toList := by
  unfold channelHandoffs
  rw [List.zipIdx_append, List.filterMap_append]
  cases hm : Message.handoff (m, channel.length) <;> simp [hm]

theorem channelHandoffs_take (channel : List (Message δ)) {i j : Nat} (h : i <= j) :
    (channelHandoffs (channel.take i)).Sublist (channelHandoffs (channel.take j)) := by
  have hprefix : channel.take i <+: channel.take j := List.take_prefix_take_left h
  rcases hprefix with ⟨rest, hrest⟩
  rw [← hrest]
  exact (channelHandoffs_append _ rest).sublist

theorem via_of_mem_channelHandoffs {channel : List (Message δ)} {h : Handoff δ}
    (hmem : h ∈ channelHandoffs channel) :
    exists i, h.via = .channel i ∧ i < channel.length := by
  rcases List.mem_filterMap.mp hmem with ⟨⟨m, i⟩, hm, heq⟩
  rcases Option.map_eq_some_iff.mp heq with ⟨body, _, heq⟩
  subst heq
  have hlt := List.snd_lt_of_mem_zipIdx hm
  exact ⟨i, rfl, hlt⟩

theorem channelHandoffs_pairwise (channel : List (Message δ)) :
    (channelHandoffs channel).Pairwise Handoff.Precedes := by
  induction channel using List.reverseRecOn with
  | nil => exact List.Pairwise.nil
  | append_singleton channel m ih =>
      rw [channelHandoffs_snoc, List.pairwise_append]
      refine ⟨ih, ?_, ?_⟩
      · cases Message.handoff (m, channel.length) <;> simp
      · intro a ha b hb
        rcases via_of_mem_channelHandoffs ha with ⟨i, hi, hlt⟩
        rcases Option.map_eq_some_iff.mp (Option.mem_toList.mp hb) with ⟨body, _, heq⟩
        subst heq
        exact ⟨i, channel.length, hi, rfl, hlt⟩

theorem Handoff.Precedes.asymm {a b : Handoff δ} (h : a.Precedes b) : ¬ b.Precedes a := by
  rcases h with ⟨i, j, hi, hj, hlt⟩
  rintro ⟨j', i', hj', hi', hlt'⟩
  rw [hi] at hi'
  rw [hj] at hj'
  cases hi'
  cases hj'
  exact Nat.lt_asymm hlt hlt'

/-!
## The order invariant
-/

/-- Where the connection reads next. -/
def Connection.position : Connection -> Option Nat
  | closed => none
  | sent => none
  | registered next => some next
  | live next => some next
  | dead _ => none

def fromChannel (handed : List (Handoff δ)) : List (Handoff δ) :=
  handed.filter fun h => h.via.isChannel

/-- The hand-offs from the channel stem from its first `seen` messages, which the
connection does not read again. -/
structure InPublishOrder (channel : List (Message δ)) (proc : Process δ) (seen : Nat) :
    Prop where
  bound : seen <= channel.length
  position : forall next, proc.connection.position = some next ->
    seen <= next ∧ next <= channel.length
  subsequence : (fromChannel proc.handed).Sublist (channelHandoffs (channel.take seen))

structure OrderInv (json : Json δ) (channel : List (Message δ)) (proc : Process δ) :
    Prop where
  inOrder : exists seen, InPublishOrder channel proc seen
  direct : forall h call, h ∈ proc.handed -> h.via = .direct call ->
    exists request, h.notification = fallback json request

variable {json : Json δ} {channel : List (Message δ)} {proc : Process δ}

theorem InPublishOrder.append {seen : Nat} (h : InPublishOrder channel proc seen)
    (entries : List (Message δ)) : InPublishOrder (channel ++ entries) proc seen := by
  have hlength : channel.length <= (channel ++ entries).length := by simp
  refine ⟨Nat.le_trans h.bound hlength, ?_, ?_⟩
  · intro next hnext
    rcases h.position next hnext with ⟨hseen, hle⟩
    exact ⟨hseen, Nat.le_trans hle hlength⟩
  · rw [List.take_append_of_le_length h.bound]
    exact h.subsequence

theorem OrderInv.append (h : OrderInv json channel proc) (entries : List (Message δ)) :
    OrderInv json (channel ++ entries) proc := by
  rcases h.inOrder with ⟨seen, hseen⟩
  exact ⟨⟨seen, hseen.append entries⟩, h.direct⟩

/-- A step that hands nothing over and does not move the connection back. -/
theorem OrderInv.quiet (h : OrderInv json channel proc) {proc' : Process δ}
    (hhanded : proc'.handed = proc.handed)
    (hposition : forall next, proc'.connection.position = some next ->
      proc.connection.position = some next ∨ next = channel.length) :
    OrderInv json channel proc' := by
  rcases h.inOrder with ⟨seen, hseen⟩
  refine ⟨⟨seen, hseen.bound, ?_, ?_⟩, ?_⟩
  · intro next hnext
    rcases hposition next hnext with hold | hnew
    · exact hseen.position next hold
    · rw [hnew]
      exact ⟨hseen.bound, Nat.le_refl _⟩
  · rw [hhanded]
    exact hseen.subsequence
  · rw [hhanded]
    exact h.direct

theorem OrderInv.resume (h : OrderInv json channel proc) (id : Nat) (call : Call δ)
    (published : Bool) : OrderInv json channel (proc.resume json id call published) := by
  unfold Process.resume
  split
  · exact h.quiet rfl fun _ hnext => Or.inl hnext
  · rcases h.inOrder with ⟨seen, hseen⟩
    refine ⟨⟨seen, hseen.bound, hseen.position, ?_⟩, ?_⟩
    · have heq : fromChannel (proc.handed ++
          [{ notification := fallback json call.request, via := .direct id }]) =
            fromChannel proc.handed := by
        unfold fromChannel
        rw [List.filter_append]
        exact List.append_nil _
      show (fromChannel _).Sublist _
      rw [heq]
      exact hseen.subsequence
    · intro handoff other hmem hvia
      rcases List.mem_append.mp hmem with hmem | hmem
      · exact h.direct handoff other hmem hvia
      · rw [List.mem_singleton.mp hmem]
        exact ⟨call.request, rfl⟩

/-- Receiving the next message hands it over behind all that came before. -/
theorem OrderInv.receive (h : OrderInv json channel proc) {next : Nat} {m : Message δ}
    (hconn : proc.connection = .live next) (hm : channel[next]? = some m) :
    OrderInv json channel { proc.deliver next m with connection := .live (next + 1) } := by
  rcases h.inOrder with ⟨seen, hseen⟩
  have hle : seen <= next := (hseen.position next (by rw [hconn]; rfl)).1
  rcases List.getElem?_eq_some_iff.mp hm with ⟨hlt, hget⟩
  have htake : channel.take (next + 1) = channel.take next ++ [m] := by
    rw [List.take_add_one, hm]
    rfl
  have hsnoc : channelHandoffs (channel.take (next + 1)) =
      channelHandoffs (channel.take next) ++ (Message.handoff (m, next)).toList := by
    rw [htake, channelHandoffs_snoc, List.length_take, Nat.min_eq_left (Nat.le_of_lt hlt)]
  have hold := hseen.subsequence.trans (channelHandoffs_take channel hle)
  refine ⟨⟨next + 1, hlt, ?_, ?_⟩, ?_⟩
  · intro position hposition
    cases hposition
    exact ⟨Nat.le_refl _, hlt⟩
  · rw [hsnoc]
    show (fromChannel (proc.deliver next m).handed).Sublist _
    unfold Process.deliver
    cases hbody : m.body with
    | none =>
        simp only [Message.handoff, hbody, Option.map_none, Option.toList_none, List.append_nil]
        exact hold
    | some body =>
        simp only [Message.handoff, hbody, Option.map_some, Option.toList_some]
        unfold fromChannel
        rw [List.filter_append]
        exact hold.append (List.Sublist.refl _)
  · intro handoff call hmem hvia
    have hmem' : handoff ∈ (proc.deliver next m).handed := hmem
    unfold Process.deliver at hmem'
    split at hmem'
    · rcases List.mem_append.mp hmem' with hmem' | hmem'
      · exact h.direct handoff call hmem' hvia
      · rw [List.mem_singleton.mp hmem'] at hvia
        cases hvia
    · exact h.direct handoff call hmem' hvia

theorem OrderInv.own {p : Nat} {proc' : Process δ} {entries : List (Message δ)}
    (h : OrderInv json channel proc) (hstep : Process.Step json channel p proc proc' entries) :
    OrderInv json channel proc' := by
  cases hstep with
  | broadcast request => exact h.quiet rfl fun _ hnext => Or.inl hnext
  | land id call data => exact h
  | resume id call published => exact h.resume id call published
  | subscribe hconn => exact h.quiet rfl fun _ hnext => by cases hnext
  | register hconn => exact h.quiet rfl fun _ hnext => Or.inr (Option.some.inj hnext).symm
  | acknowledge next hconn =>
      refine h.quiet rfl ?_
      intro position hposition
      rw [hconn]
      exact Or.inl hposition
  | receive next m hconn hm => exact h.receive hconn hm
  | die next hconn => exact h.quiet rfl fun _ hnext => by cases hnext
  | lose hconn => exact h.quiet rfl fun _ hnext => by cases hnext

theorem orderInv_local (json : Json δ) :
    SharedLog.LocalInvariant (fanout json) Message.origin
      fun channel _ proc => OrderInv json channel proc where
  signed := fun _ _ _ _ _ _ hact => Process.act_signed hact
  unsigned := outside_unsigned json
  own := fun _ _ _ _ _ entries h hact => (h.own (Process.act_cases hact)).append entries
  others := fun _ _ _ entries h _ => h.append entries

theorem orderInv_initial (json : Json δ) : OrderInv json [] Process.initial := by
  refine ⟨⟨0, Nat.le_refl _, ?_, List.Sublist.refl _⟩, ?_⟩
  · intro next hnext
    cases hnext
  · intro handoff call hmem
    cases hmem

/-!
## Refetch payloads
-/

/-- The hand-offs of an event that carry a payload. -/
def payloadHandoffs [DecidableEq δ] (json : Json δ) (event : String) (handed : List (Handoff δ)) :
    List (Handoff δ) :=
  handed.filter fun h => h.notification.event = event ∧ h.notification.data ≠ json.empty

structure PayloadsInOrder [DecidableEq δ] (json : Json δ) (event : String) (s : Fanout δ) : Prop where
  /-- Each message is handed over at most once, in publish order. -/
  subsequence : forall (p : Nat) (proc : Process δ), s.agents[p]? = some proc ->
    (payloadHandoffs json event proc.handed).Sublist (channelHandoffs s.log)
  agreement : forall (p q : Nat) (proc other : Process δ) a b,
    s.agents[p]? = some proc -> s.agents[q]? = some other ->
    [a, b].Sublist (payloadHandoffs json event proc.handed) ->
      ¬ [b, a].Sublist (payloadHandoffs json event other.handed)
  otherwiseEmpty : forall (p : Nat) (proc : Process δ) h, s.agents[p]? = some proc ->
    h ∈ proc.handed -> h.notification.event = event -> h ∉ channelHandoffs s.log -> h.notification.data = json.empty

theorem OrderInv.fromChannel_sublist (h : OrderInv json channel proc) :
    (fromChannel proc.handed).Sublist (channelHandoffs channel) := by
  rcases h.inOrder with ⟨seen, hseen⟩
  have htake := channelHandoffs_take channel hseen.bound
  rw [List.take_length] at htake
  exact hseen.subsequence.trans htake

/-- What does not come from the channel carries no payload. -/
theorem OrderInv.direct_empty (h : OrderInv json channel proc) {event : String}
    (hevent : event ∈ refetchEvents) {handoff : Handoff δ} (hmem : handoff ∈ proc.handed)
    (he : handoff.notification.event = event) (hvia : handoff.via.isChannel = false) :
    handoff.notification.data = json.empty := by
  cases hv : handoff.via with
  | channel index =>
      rw [hv] at hvia
      cases hvia
  | direct call =>
      rcases h.direct handoff call hmem hv with ⟨request, hrequest⟩
      rw [hrequest] at he ⊢
      have hrefetch : request.event ∈ refetchEvents := by
        change request.event = event at he
        rw [he]
        exact hevent
      simp [fallback, hrefetch]

theorem OrderInv.payloads_sublist [DecidableEq δ] (h : OrderInv json channel proc) {event : String}
    (hevent : event ∈ refetchEvents) :
    (payloadHandoffs json event proc.handed).Sublist (channelHandoffs channel) := by
  refine List.Sublist.trans ?_ h.fromChannel_sublist
  have heq : payloadHandoffs json event proc.handed =
      (payloadHandoffs json event proc.handed).filter fun handoff => handoff.via.isChannel := by
    symm
    apply List.filter_eq_self.mpr
    intro handoff hmem
    rcases List.mem_filter.mp hmem with ⟨hmem, hpayload⟩
    rcases of_decide_eq_true hpayload with ⟨he, hne⟩
    cases hvia : handoff.via.isChannel with
    | true => rfl
    | false => exact absurd (h.direct_empty hevent hmem he hvia) hne
  rw [heq]
  exact List.Sublist.filter _ List.filter_sublist

/-- In every run of any number of processes the payloads of a refetch event reach each
of them in publish order, and whatever else it is handed for that event is empty. -/
theorem refetch_payloads_in_order [DecidableEq δ] (json : Json δ) (processes : Nat) (s : Fanout δ)
    (event : String) (hevent : event ∈ refetchEvents)
    (hreach : Reachable (SharedLog.step (fanout json)) (Fanout.initial processes) s) :
    PayloadsInOrder json event s := by
  have hinit : SharedLog.Everywhere (fun channel _ proc => OrderInv json channel proc)
      ((Fanout.initial processes : Fanout δ)) := by
    intro p proc hp
    rw [List.eq_of_mem_replicate (List.mem_of_getElem? hp)]
    exact orderInv_initial json
  have hinv := (orderInv_local json).everywhere hinit hreach
  constructor
  case subsequence =>
    intro p proc hp
    exact (hinv p proc hp).payloads_sublist hevent
  case agreement =>
    intro p q proc other a b hp hq hab hba
    have hfirst := (channelHandoffs_pairwise s.log).sublist
      (hab.trans ((hinv p proc hp).payloads_sublist hevent))
    have hsecond := (channelHandoffs_pairwise s.log).sublist
      (hba.trans ((hinv q other hq).payloads_sublist hevent))
    exact (List.pairwise_pair.mp hfirst).asymm (List.pairwise_pair.mp hsecond)
  case otherwiseEmpty =>
    intro p proc handoff hp hmem he hnot
    have hvia : handoff.via.isChannel = false := by
      by_contra hchannel
      apply hnot
      apply (hinv p proc hp).fromChannel_sublist.subset
      exact List.mem_filter.mpr ⟨hmem, by simpa using hchannel⟩
    exact (hinv p proc hp).direct_empty hevent hmem he hvia

/-- The first payload is told directly as well, since its publish was given up. -/
def racingRun : List (SharedLog.Action Unit (Act String)) :=
  [.agent 0 .subscribe, .agent 0 .register, .agent 0 .acknowledge, .agent 1 .subscribe,
    .agent 1 .register, .agent 1 .acknowledge, .agent 0 (.broadcast (pollAlerts "[1]")),
    .agent 0 (.failed 0), .agent 1 (.broadcast (pollAlerts "[2]")), .agent 1 (.land 0),
    .agent 1 (.published 0), .agent 0 (.land 0), .agent 0 .receive, .agent 0 .receive,
    .agent 1 .receive]

def racingState : Fanout String where
  log := [.published 1 0 (pollAlerts "[2]"), .published 0 0 (pollAlerts "[1]")]
  agents := [
    { subscribed := true
      subscription := 1
      connection := .live 2
      ended := []
      calls := [{ request := pollAlerts "[1]", sampled := some 1, status := .told }]
      handed := [
        { notification := pollAlerts "{}", via := .direct 0 },
        { notification := pollAlerts "[2]", via := .channel 0 },
        { notification := pollAlerts "[1]", via := .channel 1 }] },
    { subscribed := true
      subscription := 1
      connection := .live 1
      ended := []
      calls := [{ request := pollAlerts "[2]", sampled := some 1, status := .relied }]
      handed := [{ notification := pollAlerts "[2]", via := .channel 0 }] }]

theorem racingState_payloads_in_order : PayloadsInOrder textJson "poll-alerts" racingState :=
  refetch_payloads_in_order textJson 2 racingState "poll-alerts" (by decide) ⟨racingRun, rfl⟩

end Sse
end KeepGateway
