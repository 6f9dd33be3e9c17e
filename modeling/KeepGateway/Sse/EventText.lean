import KeepGateway.Lib.JsonText
import KeepGateway.Sse.BroadcasterDelivery

/-!
# The text of a stream

What `sse_notify` accepts, what `subscribe()` writes for it, and what a client reads back.
-/

namespace KeepGateway
namespace Sse

open EventStream (Decoder Dispatched decode IsName isName_of_mem_decode)
open JsonText (Number Value dumps plain_dumps)
open Run

/-- The data of a notification, after validation. -/
inductive NotifyData where
  | incidents (incidentIds : List String)
  | alerts (alerts : List Value)
  | dict (members : List (String × Value))

/-- `notification.data.dict()`, or the dictionary itself. -/
def NotifyData.asDict : NotifyData -> Value
  | incidents ids => .object [("incident_ids", .array (ids.map .string))]
  | alerts items => .object [("alerts", .array items)]
  | dict members => .object members

def NotifyData.json (data : NotifyData) : String := dumps data.asDict

theorem NotifyData.plain_json (data : NotifyData) : EventStream.Plain data.json.toList :=
  plain_dumps data.asDict

/-- What `sse_notify` broadcasts; the name of the event is any string. -/
structure SSENotification where
  tenantId : String
  event : String
  data : NotifyData

/-- The data of the event that opens a stream. -/
def connectedData (keepaliveSeconds : Number) : NotifyData :=
  .dict [("status", .string "connected"), ("keepalive_seconds", .number keepaliveSeconds)]

/-- What `subscribe()` yields. -/
inductive Frame where
  | keepalive
  | connected (keepaliveSeconds : Number)
  | message (n : SSENotification)

namespace Frame

def text : Frame -> String
  | keepalive => ": keepalive\n\n"
  | connected seconds => formatSse NotifyData.json "connected" (connectedData seconds)
  | message n => formatSse NotifyData.json n.event n.data

/-- The event that a client has to see. -/
def delivered : Frame -> Option (List Char × List Char)
  | keepalive => none
  | connected seconds => some ("connected".toList, (connectedData seconds).json.toList)
  | message n => some (n.event.toList, n.data.json.toList)

/-- The name of the event can stand in an `event` field. -/
def IsNamed : Frame -> Prop
  | message n => IsName n.event.toList
  | _ => True

end Frame

def streamText (frames : List Frame) : List Char :=
  frames.flatMap fun frame => frame.text.toList

theorem toList_formatSse (event : String) (data : NotifyData) :
    (formatSse NotifyData.json event data).toList =
      (['e', 'v', 'e', 'n', 't', ':', ' '] ++ event.toList ++ ['\n']) ++
        ((['d', 'a', 't', 'a', ':', ' '] ++ data.json.toList ++ ['\n']) ++ ['\n']) := by
  have hopen : "event: ".toList = ['e', 'v', 'e', 'n', 't', ':', ' '] := rfl
  have hdata : "\ndata: ".toList = '\n' :: ['d', 'a', 't', 'a', ':', ' '] := rfl
  have hend : "\n\n".toList = ['\n', '\n'] := rfl
  unfold formatSse
  simp only [String.toList_append, hopen, hdata, hend]
  simp

theorem feed_formatSse {event : String} (hname : IsName event.toList) (data : NotifyData)
    (found : List Dispatched) :
    (formatSse NotifyData.json event data).toList.foldl Decoder.feed (Decoder.idle found) =
      Decoder.idle (found ++ [(event.toList, data.json.toList)]) := by
  rw [toList_formatSse, EventStream.feed_event hname.2 hname.1 data.plain_json]

/-- One frame, read where nothing is pending. -/
theorem feed_frame {frame : Frame} (hnamed : frame.IsNamed) (found : List Dispatched) :
    frame.text.toList.foldl Decoder.feed (Decoder.idle found) =
      Decoder.idle (found ++ frame.delivered.toList) := by
  cases frame with
  | keepalive =>
      have hcomment : (": keepalive\n\n" : String).toList =
          ':' :: [' ', 'k', 'e', 'e', 'p', 'a', 'l', 'i', 'v', 'e'] ++ ['\n', '\n'] := rfl
      show (": keepalive\n\n" : String).toList.foldl _ _ = _
      rw [hcomment, EventStream.feed_comment (by decide)]
      simp [Frame.delivered]
  | connected seconds =>
      have hname : IsName "connected".toList := by decide
      exact feed_formatSse hname _ found
  | message n => exact feed_formatSse hnamed n.data found

theorem feed_frames {frames : List Frame} (hnamed : forall frame, frame ∈ frames -> frame.IsNamed)
    (found : List Dispatched) :
    (streamText frames).foldl Decoder.feed (Decoder.idle found) =
      Decoder.idle (found ++ frames.filterMap Frame.delivered) := by
  induction frames generalizing found with
  | nil => simp [streamText]
  | cons frame rest ih =>
      have hrest := ih fun f hf => hnamed f (List.mem_cons_of_mem _ hf)
      rw [streamText, List.flatMap_cons, List.foldl_append,
        feed_frame (hnamed frame List.mem_cons_self)]
      show (streamText rest).foldl _ _ = _
      rw [hrest, List.filterMap_cons, List.append_assoc]
      cases frame <;> rfl

/-- A stream decodes to what was sent exactly when every event name can stand in a field:
it is not empty and has no line break. -/
theorem streamText_decodes_iff (frames : List Frame) :
    decode (streamText frames) = frames.filterMap Frame.delivered <->
      forall n, Frame.message n ∈ frames -> IsName n.event.toList := by
  constructor
  · intro hdecode n hmem
    have hsent : (n.event.toList, n.data.json.toList) ∈ frames.filterMap Frame.delivered :=
      List.mem_filterMap.mpr ⟨.message n, hmem, rfl⟩
    rw [← hdecode] at hsent
    exact isName_of_mem_decode hsent
  · intro hnames
    have hnamed : forall frame, frame ∈ frames -> frame.IsNamed := by
      intro frame hframe
      cases frame with
      | message n => exact hnames n hframe
      | _ => trivial
    rw [decode, feed_frames hnamed]
    rfl

def brokenName : SSENotification where
  tenantId := "keep"
  event := "poll\nalerts"
  data := .dict []

/-- A name with a line break does not come back. -/
theorem brokenName_lost :
    decode (streamText [.message brokenName]) ≠
      [Frame.message brokenName].filterMap Frame.delivered := by
  intro hdecode
  have hmem : ("poll\nalerts".toList, (NotifyData.dict []).json.toList) ∈
      decode (streamText [.message brokenName]) := by
    rw [hdecode]
    exact List.mem_singleton_self _
  have hbreak : '\n' ∈ "poll\nalerts".toList := by decide
  exact (isName_of_mem_decode hmem).2.1 hbreak

/-!
## The streams of a run

The broadcaster writes frames: whatever a run does, a client reads its stream as above.
-/

/-- What an event of the log writes to a stream. -/
def written (keepaliveSeconds : Number) (id : Nat) : Event -> Option String
  | .connected i =>
      if i = id then
        some (formatSse NotifyData.json "connected" (connectedData keepaliveSeconds))
      else none
  | .keepalive i => if i = id then some ": keepalive\n\n" else none
  | .yielded i text => if i = id then some text else none
  | _ => none

/-- The text of a notification that is among the actions, for the tenant. -/
def IsNotified (actions : List (Action NotifyData)) (tenant text : String) : Prop :=
  exists event data, Action.notify tenant event data ∈ actions ∧
    text = formatSse NotifyData.json event data

theorem advance_log {δ : Type} {s s' : Broadcaster} {id : Nat} {st : Stream} {a : Action δ}
    (h : s.advance id st a = some s') :
    exists es, s'.log = s.log ++ es ∧ OwnEvents id es := by
  have hnone : OwnEvents id [] := fun e he => absurd he List.not_mem_nil
  have hone : forall e : Event, e.stream = some id -> OwnEvents id [e] := by
    intro e he e' hmem
    rw [List.mem_singleton.mp hmem]
    exact he
  unfold Broadcaster.advance at h
  split at h
  · split at h <;> cases h
    exact ⟨[], (List.append_nil _).symm, hnone⟩
  · split at h <;> cases h
    exact ⟨_, rfl, hone _ rfl⟩
  · split at h <;> cases h
    exact ⟨[], (List.append_nil _).symm, hnone⟩
  · split at h <;> cases h
    · exact ⟨_, rfl, hone _ rfl⟩
    · exact ⟨_, rfl, hone _ rfl⟩
  · split at h <;> cases h
    exact ⟨_, rfl, hone _ rfl⟩
  · cases h

/-- A step logs no other text than the one it notifies. -/
theorem step_notified {s s' : Broadcaster} {a : Action NotifyData} {tenant text : String}
    (h : s.step NotifyData.json a = some s') (hmem : Event.notified tenant text ∈ s'.log) :
    Event.notified tenant text ∈ s.log ∨ IsNotified [a] tenant text := by
  have hown : forall i : Nat, (s.streams[i]?.bind fun st => s.advance i st a) = some s' ->
      Event.notified tenant text ∈ s.log ∨ IsNotified [a] tenant text := by
    intro i hbind
    rcases Option.bind_eq_some_iff.mp hbind with ⟨st, _, hadvance⟩
    rcases advance_log hadvance with ⟨es, hlog, hes⟩
    rw [hlog] at hmem
    rcases List.mem_append.mp hmem with hmem | hmem
    · exact .inl hmem
    · cases hes _ hmem
  cases a with
  | subscribe t =>
      cases h
      unfold Broadcaster.subscribe at hmem
      split at hmem
      · exact .inl hmem
      · simp only [List.mem_append, List.mem_cons, List.not_mem_nil, or_false, reduceCtorEq] at hmem
        exact .inl hmem
  | notify t event data =>
      cases h
      rcases List.mem_append.mp hmem with hmem | hmem
      · exact .inl hmem
      · cases List.mem_singleton.mp hmem
        exact .inr ⟨event, data, List.mem_singleton_self _, rfl⟩
  | closeAll =>
      cases h
      rcases List.mem_append.mp hmem with hmem | hmem
      · exact .inl hmem
      · cases List.mem_singleton.mp hmem
  | reopen =>
      cases h
      rcases List.mem_append.mp hmem with hmem | hmem
      · exact .inl hmem
      · cases List.mem_singleton.mp hmem
  | resume i => exact hown i h
  | timeout i => exact hown i h
  | take i => exact hown i h
  | deliver i => exact hown i h
  | disconnect i => exact hown i h

theorem mem_beforeClose {items : List Item} {text : String} (h : text ∈ beforeClose items) :
    Item.message text ∈ items := by
  induction items with
  | nil => cases h
  | cons item rest ih =>
      cases item with
      | message first =>
          rcases List.mem_cons.mp h with heq | hrest
          · rw [heq]
            exact List.mem_cons_self
          · exact List.mem_cons_of_mem _ (ih hrest)
      | close => cases h

/-- A stream is sent nothing but the texts of notifications. -/
theorem yielded_notified {s : Broadcaster} {actions : List (Action NotifyData)} {id : Nat}
    {text : String}
    (hrun : run (Broadcaster.step NotifyData.json) Broadcaster.initial actions = some s)
    (hmem : Event.yielded id text ∈ s.log) : exists tenant, IsNotified actions tenant text := by
  have hinv := inv_of_reachable ⟨actions, hrun⟩
  have hnotified : forall tenant t, Event.notified tenant t ∈ s.log ->
      IsNotified actions tenant t := by
    refine run_invariant_along (p := fun _ a => a ∈ actions) (q := fun s =>
      forall tenant t, Event.notified tenant t ∈ s.log -> IsNotified actions tenant t) ?_
      (fun tenant t ht => absurd ht List.not_mem_nil) (along_of_mem (fun a ha _ => ha) _) hrun
    intro s a s' ih ha hstep tenant t ht
    rcases step_notified hstep ht with hold | ⟨event, data, hnew, heq⟩
    · exact ih tenant t hold
    · exact ⟨event, data, List.mem_singleton.mp hnew ▸ ha, heq⟩
  have hyield : text ∈ yieldsOf id s.log :=
    List.mem_filterMap.mpr ⟨_, hmem, if_pos rfl⟩
  cases hst : s.streams[id]? with
  | none =>
      have hfresh := hinv.accounts.fresh id (List.getElem?_eq_none_iff.mp hst)
      exact absurd rfl (hfresh _ hmem)
  | some st =>
      have hyields := (hinv.accounts.accounted id st hst).yields.left
      have hitem := mem_beforeClose (hyields.subset hyield)
      have hevents : Item.message text ∈ s.log.filterMap (enqueued st.tenant) :=
        ((List.dropWhile_sublist _).filterMap _).subset hitem
      rcases List.mem_filterMap.mp hevents with ⟨e, he, henqueued⟩
      cases e with
      | notified t found =>
          rcases Option.ite_none_right_eq_some.mp henqueued with ⟨_, heq⟩
          cases heq
          exact ⟨t, hnotified t text he⟩
      | _ => cases henqueued

/-- What a run writes to a stream is a sequence of frames, of its own notifications. -/
theorem written_frames (keepaliveSeconds : Number) (id : Nat) {s : Broadcaster}
    {actions : List (Action NotifyData)}
    (hrun : run (Broadcaster.step NotifyData.json) Broadcaster.initial actions = some s) :
    exists frames : List Frame,
      s.log.filterMap (written keepaliveSeconds id) = frames.map Frame.text ∧
      forall n, Frame.message n ∈ frames -> Action.notify n.tenantId n.event n.data ∈ actions := by
  have hwritten : forall text, text ∈ s.log.filterMap (written keepaliveSeconds id) ->
      exists frame : Frame, frame.text = text ∧
        forall n, frame = .message n -> Action.notify n.tenantId n.event n.data ∈ actions := by
    intro text htext
    rcases List.mem_filterMap.mp htext with ⟨e, he, hwrites⟩
    cases e with
    | connected i =>
        rcases Option.ite_none_right_eq_some.mp hwrites with ⟨_, heq⟩
        exact ⟨.connected keepaliveSeconds, Option.some.inj heq, fun n hn => by cases hn⟩
    | keepalive i =>
        rcases Option.ite_none_right_eq_some.mp hwrites with ⟨_, heq⟩
        exact ⟨.keepalive, Option.some.inj heq, fun n hn => by cases hn⟩
    | yielded i found =>
        rcases Option.ite_none_right_eq_some.mp hwrites with ⟨_, heq⟩
        cases heq
        rcases yielded_notified hrun he with ⟨tenant, event, data, hnotify, heq⟩
        refine ⟨.message ⟨tenant, event, data⟩, heq.symm, fun n hn => ?_⟩
        cases hn
        exact hnotify
    | _ => cases hwrites
  generalize s.log.filterMap (written keepaliveSeconds id) = texts at hwritten
  induction texts with
  | nil => exact ⟨[], rfl, fun n hn => absurd hn List.not_mem_nil⟩
  | cons text rest ih =>
      rcases hwritten text List.mem_cons_self with ⟨frame, hframe, hnotify⟩
      rcases ih fun t ht => hwritten t (List.mem_cons_of_mem _ ht) with ⟨frames, hframes, hothers⟩
      refine ⟨frame :: frames, by rw [List.map_cons, hframe, hframes], fun n hn => ?_⟩
      rcases List.mem_cons.mp hn with heq | hmem
      · exact hnotify n heq.symm
      · exact hothers n hmem

/-- In every run whose events have names that can stand in a field, a client reads back what the
stream was sent: all of its frames, in order, and of the messages only what was notified. -/
theorem run_reads_back (keepaliveSeconds : Number) (id : Nat) {s : Broadcaster}
    {actions : List (Action NotifyData)}
    (hrun : run (Broadcaster.step NotifyData.json) Broadcaster.initial actions = some s)
    (hnames : forall tenant event data, Action.notify tenant event data ∈ actions ->
      IsName event.toList) :
    exists frames : List Frame,
      s.log.filterMap (written keepaliveSeconds id) = frames.map Frame.text ∧
      (forall n, Frame.message n ∈ frames ->
        Action.notify n.tenantId n.event n.data ∈ actions) ∧
      decode (streamText frames) = frames.filterMap Frame.delivered := by
  rcases written_frames keepaliveSeconds id hrun with ⟨frames, htexts, hnotified⟩
  refine ⟨frames, htexts, hnotified, ?_⟩
  have hnamed : forall frame, frame ∈ frames -> frame.IsNamed := by
    intro frame hframe
    cases frame with
    | message n => exact hnames _ _ _ (hnotified n hframe)
    | _ => trivial
  rw [decode, feed_frames hnamed]
  rfl

/-- One stream, with a notification that is delivered. -/
def notifiedRun : List (Action NotifyData) :=
  [.subscribe "keep", .notify "keep" "poll-alerts" (.alerts []), .resume 0, .take 0, .deliver 0]

theorem notifiedRun_reads_back : exists s frames,
    run (Broadcaster.step NotifyData.json) Broadcaster.initial notifiedRun = some s ∧
      s.log.filterMap (written ⟨['3', '0'], rfl⟩ 0) = frames.map Frame.text ∧
      decode (streamText frames) = frames.filterMap Frame.delivered := by
  have hsome : (run (Broadcaster.step NotifyData.json) Broadcaster.initial notifiedRun).isSome =
      true := rfl
  rcases Option.isSome_iff_exists.mp hsome with ⟨s, hrun⟩
  have hnames : forall tenant event data, Action.notify tenant event data ∈ notifiedRun ->
      IsName event.toList := by
    intro tenant event data hmem
    simp only [notifiedRun, List.mem_cons, List.not_mem_nil, or_false, reduceCtorEq, false_or,
      Action.notify.injEq] at hmem
    rw [hmem.2.1]
    decide
  rcases run_reads_back _ 0 hrun hnames with ⟨frames, htexts, _, hdecode⟩
  exact ⟨_, frames, hrun, htexts, hdecode⟩

end Sse
end KeepGateway
