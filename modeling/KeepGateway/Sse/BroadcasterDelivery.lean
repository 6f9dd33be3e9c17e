import KeepGateway.Sse.Broadcaster
import Mathlib.Data.List.TakeWhile

/-!
# Delivery by the broadcaster

The observable log of a run fixes what each stream has to receive: the items
enqueued for its tenant since it registered.  The invariant accounts for each of
them, as yielded, taken or still queued.
-/

namespace KeepGateway
namespace Sse

open Run

/-!
## What the log demands
-/

/-- The stream an event is about. -/
def Event.stream : Event -> Option Nat
  | registered id _ => some id
  | connected id => some id
  | keepalive id => some id
  | yielded id _ => some id
  | ended id _ => some id
  | notified _ _ => none
  | closedAll => none
  | reopened => none

def isRegistration (id : Nat) : Event -> Bool
  | .registered i _ => i == id
  | _ => false

def Registered (id : Nat) (log : List Event) : Prop :=
  exists e, e ∈ log ∧ isRegistration id e = true

def eventsSince (id : Nat) (log : List Event) : List Event :=
  log.dropWhile fun e => !isRegistration id e

/-- The item that an event puts on the queue of a registered stream. -/
def enqueued (tenant : String) : Event -> Option Item
  | .notified t text => if t = tenant then some (.message text) else none
  | .closedAll => some .close
  | _ => none

def itemsSince (id : Nat) (tenant : String) (log : List Event) : List Item :=
  (eventsSince id log).filterMap (enqueued tenant)

def Item.text : Item -> Option String
  | message text => some text
  | close => none

/-- The messages notified to a tenant since a stream of it registered. -/
def messagesSince (id : Nat) (tenant : String) (log : List Event) : List String :=
  (itemsSince id tenant log).filterMap Item.text

/-- The messages in front of the first close marker. -/
def beforeClose : List Item -> List String
  | [] => []
  | .message text :: rest => text :: beforeClose rest
  | .close :: _ => []

def yieldedText (id : Nat) : Event -> Option String
  | .yielded i text => if i = id then some text else none
  | _ => none

def yieldsOf (id : Nat) (log : List Event) : List String :=
  log.filterMap (yieldedText id)

/-- Whether the last of `close_all` and `reopen` was `close_all`. -/
def drainingAfter (log : List Event) : Bool :=
  log.foldl
    (fun draining e =>
      match e with
      | .closedAll => true
      | .reopened => false
      | _ => draining)
    false

theorem eventsSince_append {id : Nat} {log : List Event} (h : Registered id log)
    (es : List Event) : eventsSince id (log ++ es) = eventsSince id log ++ es := by
  unfold eventsSince
  rw [List.dropWhile_append]
  have hne : (log.dropWhile fun e => !isRegistration id e) ≠ [] := by
    intro hnil
    rcases h with ⟨e, he, hreg⟩
    have hall := List.dropWhile_eq_nil_iff.mp hnil e he
    rw [hreg] at hall
    cases hall
  rw [if_neg (by simpa using hne)]

theorem itemsSince_append {id : Nat} {log : List Event} (h : Registered id log)
    (tenant : String) (es : List Event) :
    itemsSince id tenant (log ++ es) =
      itemsSince id tenant log ++ es.filterMap (enqueued tenant) := by
  unfold itemsSince
  rw [eventsSince_append h, List.filterMap_append]

theorem Registered.append {id : Nat} {log : List Event} (h : Registered id log)
    (es : List Event) : Registered id (log ++ es) := by
  rcases h with ⟨e, he, hreg⟩
  exact ⟨e, List.mem_append_left es he, hreg⟩

theorem yieldsOf_append (id : Nat) (log es : List Event) :
    yieldsOf id (log ++ es) = yieldsOf id log ++ es.filterMap (yieldedText id) := by
  rw [yieldsOf, List.filterMap_append]
  rfl

theorem drainingAfter_append (log es : List Event) :
    drainingAfter (log ++ es) =
      es.foldl
        (fun draining e =>
          match e with
          | .closedAll => true
          | .reopened => false
          | _ => draining)
        (drainingAfter log) := by
  rw [drainingAfter, List.foldl_append]
  rfl

theorem beforeClose_messages (texts : List String) (items : List Item) :
    beforeClose (texts.map .message ++ items) = texts ++ beforeClose items := by
  induction texts with
  | nil => rfl
  | cons text rest ih => simp [beforeClose, ih]

theorem beforeClose_append {items : List Item} (h : Item.close ∈ items) (more : List Item) :
    beforeClose (items ++ more) = beforeClose items := by
  induction items with
  | nil => cases h
  | cons item rest ih =>
      cases item with
      | close => rfl
      | message text =>
          have hrest : Item.close ∈ rest := by simpa using h
          simp [beforeClose, ih hrest]

theorem beforeClose_isPrefix (items : List Item) :
    beforeClose items <+: items.filterMap Item.text := by
  induction items with
  | nil => exact List.nil_prefix
  | cons item rest ih =>
      cases item with
      | close => exact List.nil_prefix
      | message text =>
          show text :: beforeClose rest <+: text :: rest.filterMap Item.text
          exact (List.prefix_cons_inj text).mpr ih

/-!
## Connections and streams
-/

/-- The lists hold exactly the live streams, each under its tenant. -/
structure Consistent (s : Broadcaster) : Prop where
  distinct : Dict.Distinct s.connections
  nonempty : NoEmptyList s.connections
  nodup : forall t, (queuesOf s.connections t).Nodup
  mem : forall t id, id ∈ queuesOf s.connections t <->
    exists st, s.streams[id]? = some st ∧ st.phase.isLive = true ∧ st.tenant = t

theorem consistent_initial : Consistent Broadcaster.initial where
  distinct := Dict.distinct_nil
  nonempty := fun _ _ h => by cases h
  nodup := fun _ => List.nodup_nil
  mem := by
    intro t id
    simp [Broadcaster.initial, queuesOf]

theorem Consistent.of_streams {s : Broadcaster} (h : Consistent s) (s' : Broadcaster)
    (hc : s'.connections = s.connections)
    (hs : forall id : Nat,
      (s'.streams[id]?).map (fun st : Stream => (st.tenant, st.phase.isLive)) =
        (s.streams[id]?).map (fun st : Stream => (st.tenant, st.phase.isLive))) :
    Consistent s' where
  distinct := by rw [hc]; exact h.distinct
  nonempty := by rw [hc]; exact h.nonempty
  nodup := by rw [hc]; exact h.nodup
  mem := by
    intro t id
    rw [hc, h.mem t id]
    have hid := hs id
    cases hold : s.streams[id]? with
    | none =>
        rw [hold] at hid
        simp only [Option.map_none, Option.map_eq_none_iff] at hid
        simp [hid]
    | some st =>
        rw [hold] at hid
        cases hnew : s'.streams[id]? with
        | none =>
            rw [hnew] at hid
            cases hid
        | some st' =>
            rw [hnew] at hid
            simp only [Option.map_some, Option.some.injEq, Prod.mk.injEq] at hid
            simp [hid.left, hid.right]

theorem getElem_set_stream {streams : List Stream} {id : Nat} {st : Stream}
    (hst : streams[id]? = some st) (st' : Stream) (i : Nat) :
    (streams.set id st')[i]? = if id = i then some st' else streams[i]? := by
  have hlt : id < streams.length := (List.getElem?_eq_some_iff.mp hst).1
  rw [List.getElem?_set]
  by_cases hi : id = i
  · subst hi
    simp [hlt]
  · simp [hi]

theorem Consistent.setStream {s : Broadcaster} (h : Consistent s) {id : Nat}
    {st st' : Stream} (hst : s.streams[id]? = some st) (ht : st'.tenant = st.tenant)
    (hl : st'.phase.isLive = st.phase.isLive) : Consistent (s.setStream id st') := by
  refine h.of_streams (s.setStream id st') rfl ?_
  intro i
  show ((s.streams.set id st')[i]?).map _ = _
  rw [getElem_set_stream hst]
  by_cases hi : id = i
  · subst hi
    rw [if_pos rfl, hst, Option.map_some, Option.map_some, ht, hl]
  · rw [if_neg hi]

theorem Consistent.emit {s : Broadcaster} (h : Consistent s) (es : List Event) :
    Consistent (s.emit es) :=
  h.of_streams _ rfl fun _ => rfl

theorem Consistent.putAll {s : Broadcaster} (h : Consistent s) (item : Item) (ids : List Nat)
    (hids : ids.Nodup) (es : List Event) (draining : Bool) :
    Consistent { s with
      draining := draining
      streams := Sse.putAll item ids s.streams
      log := s.log ++ es } := by
  refine h.of_streams _ rfl ?_
  intro id
  show ((Sse.putAll item ids s.streams)[id]?).map _ = _
  rw [getElem_putAll item ids s.streams hids, Option.map_map]
  congr 1
  funext st
  by_cases hid : id ∈ ids <;> simp [hid]

/-- Streams of different tenants are different. -/
theorem Consistent.queues_nodup {s : Broadcaster} (h : Consistent s) :
    s.connections.queues.Nodup := by
  apply List.nodup_flatMap.mpr
  constructor
  · rintro ⟨t, queues⟩ hmem
    have hqueues := h.nodup t
    rw [queuesOf, h.distinct.lookup.mpr hmem] at hqueues
    exact hqueues
  · have hpairs : s.connections.Pairwise fun a b => a.1 ≠ b.1 :=
      List.pairwise_map.mp h.distinct
    apply hpairs.imp_of_mem
    rintro ⟨t, queues⟩ ⟨t', queues'⟩ hmem hmem' hne
    intro id hid hid'
    have hleft : id ∈ queuesOf s.connections t := by
      rw [queuesOf, h.distinct.lookup.mpr hmem]
      exact hid
    have hright : id ∈ queuesOf s.connections t' := by
      rw [queuesOf, h.distinct.lookup.mpr hmem']
      exact hid'
    rcases (h.mem t id).mp hleft with ⟨st, hst, _, ht⟩
    rcases (h.mem t' id).mp hright with ⟨st', hst', _, ht'⟩
    rw [hst] at hst'
    cases hst'
    exact hne (ht.symm.trans ht')

theorem Consistent.subscribe {s : Broadcaster} (h : Consistent s) (tenant : String) :
    Consistent (s.subscribe tenant) := by
  have hnew : forall (st : Stream) (id : Nat), (s.streams ++ [st])[id]? =
      if id = s.streams.length then some st else s.streams[id]? := by
    intro st id
    rcases Nat.lt_trichotomy id s.streams.length with hlt | heq | hgt
    · rw [List.getElem?_append_left hlt, if_neg (Nat.ne_of_lt hlt)]
    · subst heq
      simp
    · rw [if_neg (Nat.ne_of_gt hgt), List.getElem?_eq_none (by simp; omega),
        List.getElem?_eq_none (Nat.le_of_lt hgt)]
  have hnone : s.streams[s.streams.length]? = none := List.getElem?_eq_none (Nat.le_refl _)
  unfold Broadcaster.subscribe
  by_cases hd : s.draining
  · simp only [hd, if_true]
    refine ⟨h.distinct, h.nonempty, h.nodup, ?_⟩
    intro t id
    show id ∈ queuesOf s.connections t <-> _
    rw [h.mem t id]
    by_cases hid : id = s.streams.length
    · subst hid
      rw [hnone, hnew, if_pos rfl]
      simp [Phase.isLive]
    · simp [hnew, hid]
  · simp only [hd, if_false, Bool.false_eq_true]
    refine ⟨distinct_register h.distinct _ _, h.nonempty.register _ _, ?_, ?_⟩
    · intro t
      show (queuesOf (register tenant s.streams.length s.connections) t).Nodup
      rw [queuesOf_register]
      by_cases ht : tenant = t
      · rw [if_pos ht, List.nodup_append]
        refine ⟨h.nodup t, List.nodup_singleton _, ?_⟩
        intro a ha b hb hab
        rw [List.mem_singleton.mp hb] at hab
        subst hab
        rcases (h.mem t s.streams.length).mp ha with ⟨st, hst, _⟩
        rw [hnone] at hst
        cases hst
      · rw [if_neg ht]
        exact h.nodup t
    · intro t id
      show id ∈ queuesOf (register tenant s.streams.length s.connections) t <-> _
      rw [queuesOf_register]
      by_cases hid : id = s.streams.length
      · subst hid
        have hnot : s.streams.length ∉ queuesOf s.connections t := by
          intro hmem
          rcases (h.mem t s.streams.length).mp hmem with ⟨st, hst, _⟩
          rw [hnone] at hst
          cases hst
        by_cases ht : tenant = t <;> simp [ht, hnot, Phase.isLive]
      · by_cases ht : tenant = t <;> simp [hnew, ht, hid, h.mem]

theorem Consistent.finish {s : Broadcaster} (h : Consistent s) {id : Nat} {st : Stream}
    (hst : s.streams[id]? = some st) (reason : CloseReason) :
    Consistent (s.finish id st reason) := by
  refine ⟨distinct_unregister h.distinct _ _, h.nonempty.unregister _ _, ?_, ?_⟩
  · intro t
    show (queuesOf (unregister st.tenant id s.connections) t).Nodup
    rw [queuesOf_unregister]
    by_cases ht : st.tenant = t
    · rw [if_pos ht]
      exact (h.nodup t).erase id
    · rw [if_neg ht]
      exact h.nodup t
  · intro t i
    show i ∈ queuesOf (unregister st.tenant id s.connections) t <->
      exists st', (s.streams.set id { st with phase := .ended reason })[i]? = some st' ∧ _
    rw [queuesOf_unregister, getElem_set_stream hst]
    by_cases hi : id = i
    · subst hi
      simp only [if_true]
      constructor
      · intro hmem
        by_cases ht : st.tenant = t
        · rw [if_pos ht] at hmem
          exact absurd hmem (h.nodup t).not_mem_erase
        · rw [if_neg ht] at hmem
          rcases (h.mem t id).mp hmem with ⟨st', hst', _, ht'⟩
          rw [hst] at hst'
          cases hst'
          exact absurd ht' ht
      · rintro ⟨st', hst', hlive, _⟩
        cases hst'
        cases hlive
    · simp only [hi, if_false]
      rw [← h.mem t i]
      by_cases ht : st.tenant = t
      · rw [if_pos ht, List.mem_erase_of_ne (Ne.symm hi)]
      · rw [if_neg ht]

/-!
## Accounts
-/

/-- The item between the queue and the next `yield`. -/
def Phase.held : Phase -> List Item
  | taken item => [item]
  | _ => []

def Opened (id : Nat) (log : List Event) : Prop :=
  Event.connected id ∈ log ∧ forall reason, Event.ended id reason ∉ log

/-- Every item enqueued for the stream since it registered was yielded, is held or
is queued; after the end the remaining items are lost, the close marker first if it
was the marker that ended the stream. -/
def Accounted (id : Nat) (st : Stream) (log : List Event) : Prop :=
  match st.phase with
  | .refused => yieldsOf id log = [] ∧ ¬ Registered id log
  | .ended .shutdown =>
      Registered id log ∧ exists rest,
        (yieldsOf id log).map .message ++ .close :: rest = itemsSince id st.tenant log
  | .ended .client =>
      Registered id log ∧ exists rest,
        (yieldsOf id log).map .message ++ rest = itemsSince id st.tenant log
  | phase =>
      Registered id log ∧ Opened id log ∧
        (yieldsOf id log).map .message ++ (phase.held ++ st.queue) =
          itemsSince id st.tenant log

theorem accounted_live {id : Nat} {st : Stream} {log : List Event}
    (hl : st.phase.isLive = true) :
    Accounted id st log <-> Registered id log ∧ Opened id log ∧
      (yieldsOf id log).map .message ++ (st.phase.held ++ st.queue) =
        itemsSince id st.tenant log := by
  unfold Accounted
  cases hp : st.phase with
  | suspended => exact Iff.rfl
  | waiting => exact Iff.rfl
  | taken item => exact Iff.rfl
  | ended reason =>
      rw [hp] at hl
      cases hl
  | refused =>
      rw [hp] at hl
      cases hl

/-- An event about another stream, or about none. -/
def NotAbout (id : Nat) (es : List Event) : Prop := forall e, e ∈ es -> e.stream ≠ some id

theorem NotAbout.yields {id : Nat} {es : List Event} (h : NotAbout id es) :
    es.filterMap (yieldedText id) = [] := by
  apply List.filterMap_eq_nil_iff.mpr
  intro e he
  cases e with
  | yielded i text =>
      have hi : i ≠ id := fun h' => h _ he (by rw [h']; rfl)
      simp [yieldedText, hi]
  | _ => rfl

theorem NotAbout.registered {id : Nat} {log es : List Event} (h : NotAbout id es) :
    Registered id (log ++ es) <-> Registered id log := by
  constructor
  · rintro ⟨e, he, hreg⟩
    rcases List.mem_append.mp he with he | he
    · exact ⟨e, he, hreg⟩
    · cases e with
      | registered i t =>
          have hi : i = id := by simpa [isRegistration] using hreg
          exact absurd (by rw [hi]; rfl) (h _ he)
      | _ => cases hreg
  · exact fun hreg => hreg.append es

theorem NotAbout.opened {id : Nat} {log es : List Event} (h : NotAbout id es)
    (ho : Opened id log) : Opened id (log ++ es) := by
  constructor
  · exact List.mem_append_left es ho.left
  · intro reason hmem
    rcases List.mem_append.mp hmem with hmem | hmem
    · exact ho.right reason hmem
    · exact h _ hmem rfl

/-- Events of others reach a stream through its queue only. -/
theorem Accounted.append {id : Nat} {st : Stream} {log : List Event}
    (h : Accounted id st log) {es : List Event} (hes : NotAbout id es) {queue : List Item}
    (hqueue : st.phase.isLive = true ->
      queue = st.queue ++ es.filterMap (enqueued st.tenant)) :
    Accounted id { st with queue := queue } (log ++ es) := by
  have hyields : yieldsOf id (log ++ es) = yieldsOf id log := by
    rw [yieldsOf_append, hes.yields, List.append_nil]
  cases hl : st.phase.isLive with
  | true =>
      rcases (accounted_live hl).mp h with ⟨hreg, hopened, hitems⟩
      have hl' : ({ st with queue := queue } : Stream).phase.isLive = true := hl
      apply (accounted_live hl').mpr
      refine ⟨hreg.append es, hes.opened hopened, ?_⟩
      show (yieldsOf id (log ++ es)).map .message ++ (st.phase.held ++ queue) =
        itemsSince id st.tenant (log ++ es)
      rw [itemsSince_append hreg, hyields, hqueue hl, ← hitems]
      simp [List.append_assoc]
  | false =>
      unfold Accounted at h ⊢
      cases hp : st.phase with
      | refused =>
          rw [hp] at h
          show yieldsOf id (log ++ es) = [] ∧ ¬ Registered id (log ++ es)
          rw [hyields, hes.registered]
          exact h
      | ended reason =>
          rw [hp] at h
          cases reason with
          | client =>
              rcases h with ⟨hreg, rest, hitems⟩
              refine ⟨hreg.append es, rest ++ es.filterMap (enqueued st.tenant), ?_⟩
              rw [itemsSince_append hreg, hyields, ← hitems, List.append_assoc]
          | shutdown =>
              rcases h with ⟨hreg, rest, hitems⟩
              refine ⟨hreg.append es, rest ++ es.filterMap (enqueued st.tenant), ?_⟩
              rw [itemsSince_append hreg, hyields, ← hitems, List.append_assoc,
                List.cons_append]
      | _ =>
          rw [hp] at hl
          cases hl

/-- A stream that moves without an event keeps its account when what it holds and
what is queued stay the same. -/
theorem Accounted.move {id : Nat} {st st' : Stream} {log : List Event}
    (h : Accounted id st log) (hl : st.phase.isLive = true) (hl' : st'.phase.isLive = true)
    (ht : st'.tenant = st.tenant)
    (hitems : st'.phase.held ++ st'.queue = st.phase.held ++ st.queue) :
    Accounted id st' log := by
  rcases (accounted_live hl).mp h with ⟨hreg, hopened, heq⟩
  exact (accounted_live hl').mpr ⟨hreg, hopened, by rw [hitems, ht, heq]⟩

/-- All streams are accounted for, and no event names a stream before its time. -/
structure Accounts (s : Broadcaster) : Prop where
  accounted : forall id st, s.streams[id]? = some st -> Accounted id st s.log
  fresh : forall id, s.streams.length <= id -> NotAbout id s.log
  draining : s.draining = drainingAfter s.log

theorem accounts_initial : Accounts Broadcaster.initial where
  accounted := by
    intro id st h
    simp [Broadcaster.initial] at h
  fresh := by
    intro id _ e he
    cases he
  draining := rfl

/-- Events about one stream that enqueue nothing. -/
def OwnEvents (id : Nat) (es : List Event) : Prop :=
  forall e, e ∈ es -> e.stream = some id

theorem OwnEvents.notAbout {id i : Nat} {es : List Event} (h : OwnEvents id es) (hi : id ≠ i) :
    NotAbout i es := by
  intro e he heq
  rw [h e he] at heq
  exact hi (Option.some.inj heq)

theorem OwnEvents.enqueued {id : Nat} {es : List Event} (h : OwnEvents id es)
    (tenant : String) : es.filterMap (Sse.enqueued tenant) = [] := by
  apply List.filterMap_eq_nil_iff.mpr
  intro e he
  have hstream := h e he
  cases e with
  | notified t text => cases hstream
  | closedAll => cases hstream
  | _ => rfl

theorem OwnEvents.drainingAfter {id : Nat} {log es : List Event} (h : OwnEvents id es) :
    drainingAfter (log ++ es) = drainingAfter log := by
  rw [drainingAfter_append]
  generalize Sse.drainingAfter log = d
  induction es with
  | nil => rfl
  | cons e rest ih =>
      have hstream := h e List.mem_cons_self
      have hrest : OwnEvents id rest := fun e' he' => h e' (List.mem_cons_of_mem e he')
      cases e with
      | closedAll => cases hstream
      | reopened => cases hstream
      | _ => exact ih hrest

/-- One stream moves and tells about itself: the others keep their accounts. -/
theorem Accounts.own {s : Broadcaster} (h : Accounts s) {id : Nat} {st st' : Stream}
    (hst : s.streams[id]? = some st) (es : List Event) (hes : OwnEvents id es)
    (hown : Accounted id st' (s.log ++ es)) (connections : Connections) :
    Accounts { s with
      connections := connections
      streams := s.streams.set id st'
      log := s.log ++ es } where
  accounted := by
    intro i sti hi
    show Accounted i sti (s.log ++ es)
    rw [show (s.streams.set id st')[i]? = _ from getElem_set_stream hst st' i] at hi
    by_cases hid : id = i
    · subst hid
      rw [if_pos rfl] at hi
      cases hi
      exact hown
    · rw [if_neg hid] at hi
      exact (h.accounted i sti hi).append (hes.notAbout hid)
        (fun _ => by rw [hes.enqueued, List.append_nil])
  fresh := by
    intro i hi
    rw [show (s.streams.set id st').length = _ from List.length_set] at hi
    have hlt : id < s.streams.length := (List.getElem?_eq_some_iff.mp hst).1
    intro e he
    rcases List.mem_append.mp he with he | he
    · exact h.fresh i hi e he
    · exact hes.notAbout (by omega) e he
  draining := by
    show s.draining = drainingAfter (s.log ++ es)
    rw [hes.drainingAfter, h.draining]

/-- An item is put on the queues of some streams, as an event about none demands. -/
theorem Accounts.putAll {s : Broadcaster} (h : Accounts s) {item : Item} {ids : List Nat}
    (hids : ids.Nodup) {e : Event} (he : e.stream = none) {draining : Bool}
    (hdraining : draining = drainingAfter (s.log ++ [e]))
    (henqueued : forall id st, s.streams[id]? = some st -> st.phase.isLive = true ->
      [e].filterMap (enqueued st.tenant) = if id ∈ ids then [item] else []) :
    Accounts { s with
      draining := draining
      streams := Sse.putAll item ids s.streams
      log := s.log ++ [e] } where
  accounted := by
    intro id st' hst'
    have hnot : NotAbout id [e] := by
      intro e' he'
      rw [List.mem_singleton.mp he', he]
      simp
    change (Sse.putAll item ids s.streams)[id]? = some st' at hst'
    rw [getElem_putAll item ids s.streams hids] at hst'
    rcases Option.map_eq_some_iff.mp hst' with ⟨st, hst, rfl⟩
    have hqueue : (if id ∈ ids then { st with queue := st.queue ++ [item] } else st) =
        { st with queue := if id ∈ ids then st.queue ++ [item] else st.queue } := by
      by_cases hid : id ∈ ids <;> simp [hid]
    rw [hqueue]
    apply (h.accounted id st hst).append hnot
    intro hlive
    rw [henqueued id st hst hlive]
    by_cases hid : id ∈ ids <;> simp [hid]
  fresh := by
    intro i hi
    rw [show (Sse.putAll item ids s.streams).length = _ from length_putAll _ _ _] at hi
    intro e' he'
    rcases List.mem_append.mp he' with he' | he'
    · exact h.fresh i hi e' he'
    · rw [List.mem_singleton.mp he', he]
      simp
  draining := hdraining

/-!
## The order of events
-/

/-- What has to come before an event: no `close_all` without a `reopen` before a
registration, `connected` and no end before an item. -/
def Allowed (before : List Event) : Event -> Prop
  | .registered _ _ => drainingAfter before = false
  | .yielded id _ => Opened id before
  | _ => True

def Ordered (log : List Event) : Prop :=
  forall before e after, log = before ++ e :: after -> Allowed before e

theorem Ordered.snoc {log : List Event} (h : Ordered log) {e : Event} (he : Allowed log e) :
    Ordered (log ++ [e]) := by
  intro before e' after heq
  rcases List.eq_nil_or_concat after with rfl | ⟨rest, last, rfl⟩
  · rcases List.append_inj' heq rfl with ⟨rfl, hlast⟩
    cases hlast
    exact he
  · rw [List.concat_eq_append, ← List.cons_append, ← List.append_assoc] at heq
    exact h before e' rest (List.append_inj' heq rfl).1

/-- The invariant of the broadcaster. -/
structure Inv (s : Broadcaster) : Prop where
  consistent : Consistent s
  accounts : Accounts s
  ordered : Ordered s.log

theorem inv_initial : Inv Broadcaster.initial where
  consistent := consistent_initial
  accounts := accounts_initial
  ordered := by
    intro before e after h
    simp [Broadcaster.initial] at h

/-- A stream among those there were, or the new one. -/
theorem getElem?_subscribed {streams : List Stream} {st st' : Stream} {id : Nat}
    (h : (streams ++ [st])[id]? = some st') :
    (id < streams.length ∧ streams[id]? = some st') ∨ (id = streams.length ∧ st' = st) := by
  rcases Nat.lt_or_ge id streams.length with hid | hid
  · rw [List.getElem?_append_left hid] at h
    exact Or.inl ⟨hid, h⟩
  · have hlt := (List.getElem?_eq_some_iff.mp h).1
    rw [List.length_append, List.length_singleton] at hlt
    have hlast : id = streams.length := Nat.le_antisymm (Nat.le_of_lt_succ hlt) hid
    rw [hlast, List.getElem?_concat_length] at h
    exact Or.inr ⟨hlast, (Option.some.inj h).symm⟩

theorem NotAbout.not_registered {id : Nat} {log : List Event} (h : NotAbout id log) :
    ¬ Registered id log := by
  rintro ⟨e, he, hreg⟩
  cases e with
  | registered i t =>
      have hi : i = id := by simpa [isRegistration] using hreg
      exact h _ he (by rw [hi]; rfl)
  | _ => cases hreg

/-- A stream that registers is accounted for from its registration on. -/
theorem accounted_registered {id : Nat} {log : List Event} (h : NotAbout id log)
    (tenant : String) :
    Accounted id { tenant := tenant, queue := [], phase := .suspended }
      (log ++ [.registered id tenant, .connected id]) := by
  apply (accounted_live rfl).mpr
  refine ⟨⟨.registered id tenant, by simp, by simp [isRegistration]⟩, ⟨by simp, ?_⟩, ?_⟩
  · intro reason hmem
    simp only [List.mem_append, List.mem_cons, List.not_mem_nil, reduceCtorEq, or_false] at hmem
    exact h _ hmem rfl
  · have hsince : eventsSince id (log ++ [.registered id tenant, .connected id]) =
        [.registered id tenant, .connected id] := by
      have hnil : eventsSince id log = [] := by
        apply List.dropWhile_eq_nil_iff.mpr
        intro e he
        cases hreg : isRegistration id e with
        | false => rfl
        | true => exact absurd ⟨e, he, hreg⟩ h.not_registered
      unfold eventsSince at hnil ⊢
      rw [List.dropWhile_append, hnil]
      simp [isRegistration]
    have hyields : yieldsOf id log = [] := h.yields
    rw [yieldsOf_append, hyields, itemsSince, hsince]
    rfl

/-- A stream that is refused while draining leaves the log alone. -/
theorem Accounts.refuse {s : Broadcaster} (h : Accounts s) (tenant : String) :
    Accounts { s with
      streams := s.streams ++ [{ tenant := tenant, queue := [], phase := .refused }] } := by
  have hfresh := h.fresh s.streams.length (Nat.le_refl _)
  refine ⟨?_, ?_, h.draining⟩
  · intro id st hst
    rcases getElem?_subscribed hst with ⟨_, hold⟩ | ⟨hid, hnew⟩
    · exact h.accounted id st hold
    · rw [hid, hnew]
      exact ⟨hfresh.yields, hfresh.not_registered⟩
  · intro id hid
    apply h.fresh
    rw [List.length_append] at hid
    exact Nat.le_trans (Nat.le_add_right _ _) hid

theorem Accounts.accept {s : Broadcaster} (h : Accounts s) (tenant : String)
    (connections : List (String × List Nat)) :
    Accounts { s with
      connections := connections
      streams := s.streams ++ [{ tenant := tenant, queue := [], phase := .suspended }]
      log := s.log ++ [.registered s.streams.length tenant, .connected s.streams.length] } := by
  have hfresh := h.fresh s.streams.length (Nat.le_refl _)
  have hown : OwnEvents s.streams.length
      [.registered s.streams.length tenant, .connected s.streams.length] := by
    intro e he
    simp only [List.mem_cons, List.not_mem_nil, or_false] at he
    rcases he with rfl | rfl <;> rfl
  refine ⟨?_, ?_, ?_⟩
  · intro id st hst
    rcases getElem?_subscribed hst with ⟨hid, hold⟩ | ⟨hid, hnew⟩
    · exact (h.accounted id st hold).append (hown.notAbout (Nat.ne_of_gt hid))
        (fun _ => by rw [hown.enqueued, List.append_nil])
    · rw [hid, hnew]
      exact accounted_registered hfresh tenant
  · intro id hid
    rw [List.length_append, List.length_singleton] at hid
    intro e he
    rcases List.mem_append.mp he with he | he
    · exact h.fresh id (Nat.le_of_succ_le hid) e he
    · exact hown.notAbout (Nat.ne_of_lt hid) e he
  · show s.draining = drainingAfter (s.log ++ _)
    rw [hown.drainingAfter, ← h.draining]

theorem Inv.subscribe {s : Broadcaster} (h : Inv s) (tenant : String) :
    Inv (s.subscribe tenant) := by
  refine ⟨h.consistent.subscribe tenant, ?_, ?_⟩
  · unfold Broadcaster.subscribe
    split
    · exact h.accounts.refuse tenant
    · exact h.accounts.accept tenant _
  · unfold Broadcaster.subscribe
    split
    · exact h.ordered
    · rename_i hd
      have hregistered : Allowed s.log (.registered s.streams.length tenant) := by
        show drainingAfter s.log = false
        rw [← h.accounts.draining]
        exact Bool.eq_false_iff.mpr hd
      have hordered := (h.ordered.snoc hregistered).snoc
        (show Allowed _ (.connected s.streams.length) from trivial)
      rwa [List.append_assoc] at hordered

theorem Inv.finish {s : Broadcaster} (h : Inv s) {id : Nat} {st : Stream}
    (hst : s.streams[id]? = some st) (reason : CloseReason)
    (hown : Accounted id { st with phase := .ended reason } (s.log ++ [.ended id reason])) :
    Inv (s.finish id st reason) where
  consistent := h.consistent.finish hst reason
  accounts := by
    refine h.accounts.own hst [.ended id reason] ?_ hown _
    intro e he
    rw [List.mem_singleton.mp he]
    rfl
  ordered := h.ordered.snoc trivial

theorem Inv.move {s : Broadcaster} (h : Inv s) {id : Nat} {st st' : Stream}
    (hst : s.streams[id]? = some st) (hl : st.phase.isLive = true)
    (hl' : st'.phase.isLive = true) (ht : st'.tenant = st.tenant)
    (hitems : st'.phase.held ++ st'.queue = st.phase.held ++ st.queue) :
    Inv (s.setStream id st') where
  consistent := h.consistent.setStream hst ht (hl'.trans hl.symm)
  accounts := by
    have hmoved := (h.accounts.accounted id st hst).move hl hl' ht hitems
    have hown := h.accounts.own hst [] (fun e he => by cases he)
      (by rw [List.append_nil]; exact hmoved) s.connections
    simpa [Broadcaster.setStream] using hown
  ordered := h.ordered

/-- An own event of a live stream other than its end. -/
theorem Accounted.tell {id : Nat} {st st' : Stream} {log : List Event} {e : Event}
    (h : Accounted id st log) (hl : st.phase.isLive = true) (hl' : st'.phase.isLive = true)
    (ht : st'.tenant = st.tenant) (hown : OwnEvents id [e])
    (hend : forall reason, e ≠ .ended id reason)
    (hitems : ([e].filterMap (yieldedText id)).map .message ++ (st'.phase.held ++ st'.queue) =
      st.phase.held ++ st.queue) : Accounted id st' (log ++ [e]) := by
  rcases (accounted_live hl).mp h with ⟨hreg, hopened, heq⟩
  apply (accounted_live hl').mpr
  refine ⟨hreg.append _, ⟨List.mem_append_left _ hopened.left, ?_⟩, ?_⟩
  · intro reason hmem
    rcases List.mem_append.mp hmem with hmem | hmem
    · exact hopened.right reason hmem
    · exact hend reason (List.mem_singleton.mp hmem).symm
  · rw [yieldsOf_append, itemsSince_append hreg, hown.enqueued, ht, List.append_nil, ← heq,
      List.map_append, List.append_assoc, hitems]

theorem ownEvents_singleton {id : Nat} {e : Event} (h : e.stream = some id) :
    OwnEvents id [e] := by
  intro e' he'
  rw [List.mem_singleton.mp he']
  exact h

/-- An item is accounted for as yielded, so the stream is open and the item allowed. -/
theorem Inv.tell {s : Broadcaster} (h : Inv s) {id : Nat} {st st' : Stream} {e : Event}
    (hst : s.streams[id]? = some st) (hl : st.phase.isLive = true)
    (hl' : st'.phase.isLive = true) (ht : st'.tenant = st.tenant)
    (hstream : e.stream = some id) (hend : forall reason, e ≠ .ended id reason)
    (hallowed : Allowed s.log e)
    (hitems : ([e].filterMap (yieldedText id)).map .message ++ (st'.phase.held ++ st'.queue) =
      st.phase.held ++ st.queue) : Inv ((s.setStream id st').emit [e]) where
  consistent := (h.consistent.setStream hst ht (hl'.trans hl.symm)).emit [e]
  accounts := h.accounts.own hst [e] (ownEvents_singleton hstream)
    ((h.accounts.accounted id st hst).tell hl hl' ht (ownEvents_singleton hstream) hend hitems)
    s.connections
  ordered := h.ordered.snoc hallowed

theorem Inv.advance {δ : Type} {s s' : Broadcaster} (h : Inv s) {id : Nat} {st : Stream}
    (hst : s.streams[id]? = some st) {a : Action δ} (hstep : s.advance id st a = some s') :
    Inv s' := by
  have haccount := h.accounts.accounted id st hst
  cases a with
  | resume i =>
      cases hp : st.phase with
      | suspended =>
          simp only [Broadcaster.advance, hp] at hstep
          cases hstep
          exact h.move hst (by rw [hp]; rfl) rfl rfl (by rw [hp]; rfl)
      | _ =>
          simp only [Broadcaster.advance, hp] at hstep
          cases hstep
  | timeout i =>
      cases hp : st.phase with
      | waiting =>
          simp only [Broadcaster.advance, hp] at hstep
          cases hstep
          exact h.tell hst (by rw [hp]; rfl) rfl rfl rfl (fun _ he => by cases he) trivial
            (by rw [hp]; rfl)
      | _ =>
          simp only [Broadcaster.advance, hp] at hstep
          cases hstep
  | take i =>
      cases hp : st.phase with
      | waiting =>
          cases hq : st.queue with
          | nil =>
              simp only [Broadcaster.advance, hp, hq] at hstep
              cases hstep
          | cons item rest =>
              simp only [Broadcaster.advance, hp, hq] at hstep
              cases hstep
              exact h.move hst (by rw [hp]; rfl) rfl rfl (by rw [hp, hq]; rfl)
      | _ =>
          simp only [Broadcaster.advance, hp] at hstep
          cases hstep
  | deliver i =>
      cases hp : st.phase with
      | taken item =>
          have hl : st.phase.isLive = true := by
            rw [hp]
            rfl
          rcases (accounted_live hl).mp haccount with ⟨hreg, hopened, hitems⟩
          cases item with
          | message text =>
              simp only [Broadcaster.advance, hp] at hstep
              cases hstep
              exact h.tell hst hl rfl rfl rfl (fun _ he => by cases he) hopened
                (by rw [hp]; simp [yieldedText, Phase.held])
          | close =>
              simp only [Broadcaster.advance, hp] at hstep
              cases hstep
              apply h.finish hst
              refine ⟨hreg.append _, st.queue, ?_⟩
              have hown : OwnEvents id [.ended id .shutdown] := ownEvents_singleton rfl
              rw [yieldsOf_append, itemsSince_append hreg, hown.enqueued, List.append_nil,
                ← hitems, hp]
              simp [yieldedText, Phase.held]
      | _ =>
          simp only [Broadcaster.advance, hp] at hstep
          cases hstep
  | disconnect i =>
      cases hl : st.phase.isLive with
      | false =>
          simp only [Broadcaster.advance, hl, Bool.false_eq_true, if_false] at hstep
          cases hstep
      | true =>
          simp only [Broadcaster.advance, hl, if_true] at hstep
          cases hstep
          rcases (accounted_live hl).mp haccount with ⟨hreg, hopened, hitems⟩
          apply h.finish hst
          refine ⟨hreg.append _, st.phase.held ++ st.queue, ?_⟩
          have hown : OwnEvents id [.ended id .client] := ownEvents_singleton rfl
          rw [yieldsOf_append, itemsSince_append hreg, hown.enqueued, List.append_nil, ← hitems]
          simp [yieldedText]
  | subscribe tenant => cases hstep
  | notify tenant event data => cases hstep
  | closeAll => cases hstep
  | reopen => cases hstep

theorem Inv.notify {s : Broadcaster} (h : Inv s) (tenant text : String) :
    Inv (s.notify tenant text) where
  consistent := h.consistent.putAll _ _ (h.consistent.nodup tenant) _ _
  accounts := by
    apply h.accounts.putAll (h.consistent.nodup tenant) rfl
    · rw [drainingAfter_append]
      exact h.accounts.draining
    · intro id st hst hlive
      have hmem : id ∈ queuesOf s.connections tenant <-> st.tenant = tenant := by
        rw [h.consistent.mem]
        constructor
        · rintro ⟨st', hst', _, ht⟩
          rw [hst] at hst'
          cases hst'
          exact ht
        · exact fun ht => ⟨st, hst, hlive, ht⟩
      by_cases ht : st.tenant = tenant
      · simp [hmem, ht, enqueued]
      · simp [hmem, ht, enqueued, Ne.symm ht]
  ordered := h.ordered.snoc trivial

theorem Inv.closeAll {s : Broadcaster} (h : Inv s) : Inv s.closeAll where
  consistent := h.consistent.putAll _ _ h.consistent.queues_nodup _ _
  accounts := by
    apply h.accounts.putAll h.consistent.queues_nodup rfl
    · rw [drainingAfter_append]
      rfl
    · intro id st hst hlive
      have hmem : id ∈ s.connections.queues := by
        rw [mem_queues h.consistent.distinct]
        exact ⟨st.tenant, (h.consistent.mem _ _).mpr ⟨st, hst, hlive, rfl⟩⟩
      simp [hmem, enqueued]
  ordered := h.ordered.snoc trivial

theorem Inv.reopen {s : Broadcaster} (h : Inv s) : Inv s.reopen where
  consistent := h.consistent.of_streams _ rfl fun _ => rfl
  accounts := by
    have hnot : forall id, NotAbout id [Event.reopened] := by
      intro id e he
      rw [List.mem_singleton.mp he]
      simp [Event.stream]
    refine ⟨?_, ?_, ?_⟩
    · intro id st hst
      exact (h.accounts.accounted id st hst).append (hnot id) fun _ => (List.append_nil _).symm
    · intro id hid e he
      rcases List.mem_append.mp he with he | he
      · exact h.accounts.fresh id hid e he
      · exact hnot id e he
    · show false = drainingAfter (s.log ++ [.reopened])
      rw [drainingAfter_append]
      rfl
  ordered := h.ordered.snoc trivial

theorem Inv.step {δ : Type} (dumps : δ -> String) {s s' : Broadcaster} {a : Action δ}
    (h : Inv s) (hstep : s.step dumps a = some s') : Inv s' := by
  cases a with
  | subscribe tenant =>
      cases hstep
      exact h.subscribe tenant
  | notify tenant event data =>
      cases hstep
      exact h.notify tenant _
  | closeAll =>
      cases hstep
      exact h.closeAll
  | reopen =>
      cases hstep
      exact h.reopen
  | _ =>
      rcases Option.bind_eq_some_iff.mp hstep with ⟨st, hst, hadvance⟩
      exact h.advance hst hadvance

theorem inv_of_reachable {δ : Type} {dumps : δ -> String} {s : Broadcaster}
    (h : Reachable (Broadcaster.step dumps) Broadcaster.initial s) : Inv s :=
  h.invariant inv_initial fun _ _ _ hs hstep => hs.step dumps hstep

/-!
## Draining

A close marker on the queue bounds what a stream can still take.
-/

variable {δ : Type}

def Action.isTake : Action δ -> Bool
  | take _ => true
  | _ => false

def Action.takes (id : Nat) : Action δ -> Bool
  | take i => i == id
  | _ => false

/-- What an action does to one stream; the flag tells whether the stream takes an
item. -/
inductive StreamStep : Bool -> Stream -> Stream -> Prop where
  | stay {st : Stream} : StreamStep false st st
  | enqueue {st : Stream} (item : Item) :
      StreamStep false st { st with queue := st.queue ++ [item] }
  | resume {st : Stream} (h : st.phase = .suspended) :
      StreamStep false st { st with phase := .waiting }
  | timeout {st : Stream} (h : st.phase = .waiting) :
      StreamStep false st { st with phase := .suspended }
  | take {st : Stream} (item : Item) (rest : List Item) (h : st.phase = .waiting)
      (hq : st.queue = item :: rest) :
      StreamStep true st { st with queue := rest, phase := .taken item }
  | yield {st : Stream} (text : String) (h : st.phase = .taken (.message text)) :
      StreamStep false st { st with phase := .suspended }
  | finish {st : Stream} (reason : CloseReason) :
      StreamStep false st { st with phase := .ended reason }

theorem streamStep_putAll {s : Broadcaster} (item : Item) {ids : List Nat} (hids : ids.Nodup)
    {id : Nat} {st : Stream} (hst : s.streams[id]? = some st) :
    exists st', (putAll item ids s.streams)[id]? = some st' ∧ StreamStep false st st' := by
  rw [getElem_putAll item ids s.streams hids, hst]
  by_cases hid : id ∈ ids
  · exact ⟨_, by rw [Option.map_some, if_pos hid], .enqueue item⟩
  · exact ⟨_, by rw [Option.map_some, if_neg hid], .stay⟩

/-- An own action replaces the stream and extends the log. -/
theorem advance_set {s s' : Broadcaster} {id : Nat} {st : Stream} {a : Action δ}
    (h : s.advance id st a = some s') :
    (exists st', s'.streams = s.streams.set id st' ∧ StreamStep a.isTake st st') ∧
      s.log <+: s'.log := by
  cases a with
  | resume i =>
      cases hp : st.phase with
      | suspended =>
          simp only [Broadcaster.advance, hp] at h
          cases h
          exact ⟨⟨_, rfl, .resume hp⟩, List.prefix_refl _⟩
      | _ =>
          simp only [Broadcaster.advance, hp] at h
          cases h
  | timeout i =>
      cases hp : st.phase with
      | waiting =>
          simp only [Broadcaster.advance, hp] at h
          cases h
          exact ⟨⟨_, rfl, .timeout hp⟩, List.prefix_append _ _⟩
      | _ =>
          simp only [Broadcaster.advance, hp] at h
          cases h
  | take i =>
      cases hp : st.phase with
      | waiting =>
          cases hq : st.queue with
          | nil =>
              simp only [Broadcaster.advance, hp, hq] at h
              cases h
          | cons item rest =>
              simp only [Broadcaster.advance, hp, hq] at h
              cases h
              exact ⟨⟨_, rfl, .take item rest hp hq⟩, List.prefix_refl _⟩
      | _ =>
          simp only [Broadcaster.advance, hp] at h
          cases h
  | deliver i =>
      cases hp : st.phase with
      | taken item =>
          cases item with
          | message text =>
              simp only [Broadcaster.advance, hp] at h
              cases h
              exact ⟨⟨_, rfl, .yield text hp⟩, List.prefix_append _ _⟩
          | close =>
              simp only [Broadcaster.advance, hp] at h
              cases h
              exact ⟨⟨_, rfl, .finish .shutdown⟩, List.prefix_append _ _⟩
      | _ =>
          simp only [Broadcaster.advance, hp] at h
          cases h
  | disconnect i =>
      cases hl : st.phase.isLive with
      | false =>
          simp only [Broadcaster.advance, hl, Bool.false_eq_true, if_false] at h
          cases h
      | true =>
          simp only [Broadcaster.advance, hl, if_true] at h
          cases h
          exact ⟨⟨_, rfl, .finish .client⟩, List.prefix_append _ _⟩
  | subscribe tenant => cases h
  | notify tenant event data => cases h
  | closeAll => cases h
  | reopen => cases h

theorem log_prefix_subscribe (s : Broadcaster) (tenant : String) :
    s.log <+: (s.subscribe tenant).log := by
  unfold Broadcaster.subscribe
  by_cases hd : s.draining
  · simp only [hd, if_true]
    exact List.prefix_refl _
  · simp only [hd, if_false, Bool.false_eq_true]
    exact List.prefix_append _ _

theorem streams_subscribe {s : Broadcaster} (tenant : String) {id : Nat} {st : Stream}
    (hst : s.streams[id]? = some st) : (s.subscribe tenant).streams[id]? = some st := by
  have hlt : id < s.streams.length := (List.getElem?_eq_some_iff.mp hst).1
  unfold Broadcaster.subscribe
  by_cases hd : s.draining
  · simp only [hd, if_true]
    rw [List.getElem?_append_left hlt]
    exact hst
  · simp only [hd, if_false, Bool.false_eq_true]
    rw [List.getElem?_append_left hlt]
    exact hst

/-- Every action extends the log and takes every stream one step. -/
theorem step_stream {dumps : δ -> String} {s s' : Broadcaster} {a : Action δ} (h : Inv s)
    (hstep : s.step dumps a = some s') :
    s.log <+: s'.log ∧ forall id st, s.streams[id]? = some st ->
      exists st', s'.streams[id]? = some st' ∧ StreamStep (a.takes id) st st' := by
  have hown : forall (i : Nat), (s.streams[i]?.bind fun st => s.advance i st a) = some s' ->
      (forall id, a.takes id = (a.isTake && i == id)) ->
      s.log <+: s'.log ∧ forall id st, s.streams[id]? = some st ->
        exists st', s'.streams[id]? = some st' ∧ StreamStep (a.takes id) st st' := by
    intro i hbind htakes
    rcases Option.bind_eq_some_iff.mp hbind with ⟨sti, hsti, hadvance⟩
    rcases advance_set hadvance with ⟨⟨sti', hstreams, hstreamstep⟩, hlog⟩
    refine ⟨hlog, ?_⟩
    intro id st hst
    rw [hstreams, getElem_set_stream hsti, htakes id]
    by_cases hid : i = id
    · subst hid
      rw [hsti] at hst
      cases hst
      exact ⟨sti', by rw [if_pos rfl], by simpa using hstreamstep⟩
    · have hflag : (a.isTake && i == id) = false := by simp [hid]
      rw [if_neg hid, hflag]
      exact ⟨st, hst, .stay⟩
  cases a with
  | subscribe tenant =>
      cases hstep
      exact ⟨log_prefix_subscribe s tenant,
        fun id st hst => ⟨st, streams_subscribe tenant hst, .stay⟩⟩
  | notify tenant event data =>
      cases hstep
      exact ⟨List.prefix_append _ _, fun id st hst =>
        streamStep_putAll _ (h.consistent.nodup tenant) hst⟩
  | closeAll =>
      cases hstep
      exact ⟨List.prefix_append _ _, fun id st hst =>
        streamStep_putAll _ h.consistent.queues_nodup hst⟩
  | reopen =>
      cases hstep
      exact ⟨List.prefix_append _ _, fun id st hst => ⟨st, hst, .stay⟩⟩
  | resume i => exact hown i hstep fun _ => rfl
  | timeout i => exact hown i hstep fun _ => rfl
  | take i => exact hown i hstep fun _ => (Bool.true_and _).symm
  | deliver i => exact hown i hstep fun _ => rfl
  | disconnect i => exact hown i hstep fun _ => rfl

/-- The items up to the close marker that a live stream has not taken yet. -/
def Stream.remaining (st : Stream) : Nat :=
  match st.phase with
  | .suspended => (beforeClose st.queue).length + 1
  | .waiting => (beforeClose st.queue).length + 1
  | .taken (.message _) => (beforeClose st.queue).length + 1
  | _ => 0

/-- The close marker is held or queued. -/
def Stream.Closing (st : Stream) : Prop :=
  st.phase.isLive = true -> Item.close ∈ st.phase.held ++ st.queue

theorem StreamStep.closing {b : Bool} {st st' : Stream} (h : StreamStep b st st')
    (hc : st.Closing) :
    st'.Closing ∧ st'.tenant = st.tenant ∧ (if b then 1 else 0) + st'.remaining <= st.remaining := by
  cases h with
  | stay => exact ⟨hc, rfl, by simp⟩
  | enqueue item =>
      refine ⟨?_, rfl, ?_⟩
      · intro hl
        have hmem := hc hl
        simp only [List.mem_append] at hmem ⊢
        tauto
      · unfold Stream.Closing at hc
        unfold Stream.remaining
        cases hp : st.phase with
        | taken held =>
            cases held with
            | close => simp
            | message text =>
                have hmem : Item.close ∈ st.queue := by
                  simpa [hp, Phase.isLive, Phase.held] using hc
                simp [beforeClose_append hmem]
        | ended reason => simp
        | refused => simp
        | _ =>
            have hmem : Item.close ∈ st.queue := by
              simpa [hp, Phase.isLive, Phase.held] using hc
            simp [beforeClose_append hmem]
  | resume hp =>
      have hmem : Item.close ∈ st.queue := by
        simpa [Stream.Closing, hp, Phase.isLive, Phase.held] using hc
      exact ⟨fun _ => hmem, rfl, by simp [Stream.remaining, hp]⟩
  | timeout hp =>
      have hmem : Item.close ∈ st.queue := by
        simpa [Stream.Closing, hp, Phase.isLive, Phase.held] using hc
      exact ⟨fun _ => hmem, rfl, by simp [Stream.remaining, hp]⟩
  | take item rest hp hq =>
      have hmem : Item.close ∈ item :: rest := by
        simpa [Stream.Closing, hp, hq, Phase.isLive, Phase.held] using hc
      refine ⟨fun _ => hmem, rfl, ?_⟩
      cases item with
      | close => simp [Stream.remaining, hp]
      | message text =>
          simp [Stream.remaining, hp, hq, beforeClose]
          omega
  | yield text hp =>
      have hmem : Item.close ∈ st.queue := by
        simpa [Stream.Closing, hp, Phase.isLive, Phase.held] using hc
      exact ⟨fun _ => hmem, rfl, by simp [Stream.remaining, hp]⟩
  | finish reason =>
      refine ⟨?_, rfl, by simp [Stream.remaining]⟩
      intro hl
      cases hl

/-- Along a run a closing stream stays closing and takes at most what remains. -/
theorem run_closing {dumps : δ -> String} {s s' : Broadcaster} {actions : List (Action δ)}
    (h : Inv s) (hrun : run (Broadcaster.step dumps) s actions = some s') {id : Nat}
    {st : Stream} (hst : s.streams[id]? = some st) (hc : st.Closing) :
    s.log <+: s'.log ∧ exists st', s'.streams[id]? = some st' ∧ st'.Closing ∧
      st'.tenant = st.tenant ∧ actions.countP (Action.takes id) + st'.remaining <= st.remaining := by
  induction actions generalizing s st with
  | nil =>
      cases hrun
      exact ⟨List.prefix_refl _, st, hst, hc, rfl, by simp⟩
  | cons a rest ih =>
      rcases run_cons.mp hrun with ⟨t, hstep, hrest⟩
      rcases step_stream h hstep with ⟨hlog, hstreams⟩
      rcases hstreams id st hst with ⟨stt, hstt, hstreamstep⟩
      rcases hstreamstep.closing hc with ⟨hct, htenant, hcount⟩
      rcases ih (h.step dumps hstep) hrest hstt hct with
        ⟨hlog', st', hst', hc', htenant', hcount'⟩
      refine ⟨hlog.trans hlog', st', hst', hc', htenant'.trans htenant, ?_⟩
      rw [List.countP_cons]
      omega

/-!
## Delivery
-/

/-- A stream yields what was enqueued before the first close marker, in order, and all
of it when the marker ends it. -/
theorem Accounted.yields {id : Nat} {st : Stream} {log : List Event} (h : Accounted id st log) :
    yieldsOf id log <+: beforeClose (itemsSince id st.tenant log) ∧
      (st.phase = .ended .shutdown ->
        yieldsOf id log = beforeClose (itemsSince id st.tenant log)) := by
  cases hl : st.phase.isLive with
  | true =>
      rcases (accounted_live hl).mp h with ⟨_, _, hitems⟩
      constructor
      · rw [← hitems, beforeClose_messages]
        exact List.prefix_append _ _
      · intro hp
        rw [hp] at hl
        cases hl
  | false =>
      unfold Accounted at h
      cases hp : st.phase with
      | refused =>
          rw [hp] at h
          rw [h.left]
          exact ⟨List.nil_prefix, fun hended => by cases hended⟩
      | ended reason =>
          rw [hp] at h
          cases reason with
          | client =>
              rcases h with ⟨_, rest, hitems⟩
              rw [← hitems, beforeClose_messages]
              exact ⟨List.prefix_append _ _, fun hended => by cases hended⟩
          | shutdown =>
              rcases h with ⟨_, rest, hitems⟩
              rw [← hitems, beforeClose_messages]
              exact ⟨List.prefix_append _ _, fun _ => (List.append_nil _).symm⟩
      | _ =>
          rw [hp] at hl
          cases hl

/-- A closing stream that is not at its end can move on. -/
theorem closing_advances (dumps : δ -> String) {s : Broadcaster} {id : Nat} {st : Stream}
    (hst : s.streams[id]? = some st) (hc : st.Closing) (hl : st.phase.isLive = true) :
    exists a : Action δ, a ∈ [Action.resume id, .take id, .deliver id] ∧
      (s.step dumps a).isSome = true := by
  have hmem := hc hl
  cases hp : st.phase with
  | suspended =>
      exact ⟨.resume id, by simp, by simp [Broadcaster.step, hst, Broadcaster.advance, hp]⟩
  | waiting =>
      rw [hp] at hmem
      cases hq : st.queue with
      | nil => simp [hq, Phase.held] at hmem
      | cons item rest =>
          exact ⟨.take id, by simp, by simp [Broadcaster.step, hst, Broadcaster.advance, hp, hq]⟩
  | taken item =>
      cases item <;>
        exact ⟨.deliver id, by simp, by simp [Broadcaster.step, hst, Broadcaster.advance, hp]⟩
  | _ =>
      rw [hp] at hl
      cases hl

/-- The items enqueued for a stream before the marker of this `close_all`. -/
def enqueuedBeforeMarker (s : Broadcaster) (id : Nat) (tenant : String) : List String :=
  beforeClose (itemsSince id tenant s.closeAll.log)

/-- A stream that was registered when `close_all` ran yields no more than what was
enqueued before the marker, all of it when the marker ends it, and until it has ended
can move on, at most one take for each of these items and one for the marker. -/
structure Drains (dumps : δ -> String) (s : Broadcaster) (id : Nat) (tenant : String)
    (actions : List (Action δ)) (s' : Broadcaster) (st' : Stream) : Prop where
  yields : yieldsOf id s'.log <+: enqueuedBeforeMarker s id tenant
  complete : st'.phase = .ended .shutdown ->
    yieldsOf id s'.log = enqueuedBeforeMarker s id tenant
  advances : st'.phase.isLive = true ->
    exists a : Action δ, a ∈ [Action.resume id, .take id, .deliver id] ∧
      (s'.step dumps a).isSome = true
  bounded : actions.countP (Action.takes id) <= (enqueuedBeforeMarker s id tenant).length + 1

structure DeliversAndDrains (dumps : δ -> String) (s : Broadcaster) : Prop where
  noEmptyList : forall t queues, (t, queues) ∈ s.connections -> queues ≠ []
  registeredOnce : forall id st, s.streams[id]? = some st -> st.phase.isLive = true ->
    (queuesOf s.connections st.tenant).count id = 1 ∧
      forall t, t ≠ st.tenant -> id ∉ queuesOf s.connections t
  inOrder : forall id st, s.streams[id]? = some st ->
    yieldsOf id s.log <+: messagesSince id st.tenant s.log
  whileOpen : forall before id text after, s.log = before ++ .yielded id text :: after ->
    Event.connected id ∈ before ∧ forall reason, Event.ended id reason ∉ before
  drains : forall id st actions s', s.streams[id]? = some st -> st.phase.isLive = true ->
    run (Broadcaster.step dumps) s.closeAll actions = some s' ->
      exists st', s'.streams[id]? = some st' ∧ Drains dumps s id st.tenant actions s' st'
  noneRegisters : forall before between id t after,
    s.log = before ++ .closedAll :: (between ++ .registered id t :: after) ->
      Event.reopened ∈ between

theorem Inv.drains (dumps : δ -> String) {s s' : Broadcaster} (h : Inv s) {id : Nat}
    {st : Stream} (hst : s.streams[id]? = some st) (hl : st.phase.isLive = true)
    {actions : List (Action δ)}
    (hrun : run (Broadcaster.step dumps) s.closeAll actions = some s') :
    exists st', s'.streams[id]? = some st' ∧ Drains dumps s id st.tenant actions s' st' := by
  have hmem : id ∈ s.connections.queues := by
    rw [mem_queues h.consistent.distinct]
    exact ⟨st.tenant, (h.consistent.mem _ _).mpr ⟨st, hst, hl, rfl⟩⟩
  have hclosed : s.closeAll.streams[id]? = some { st with queue := st.queue ++ [.close] } := by
    show (putAll .close s.connections.queues s.streams)[id]? = _
    rw [getElem_putAll _ _ _ h.consistent.queues_nodup, hst, Option.map_some, if_pos hmem]
  have hclosing : ({ st with queue := st.queue ++ [.close] } : Stream).Closing :=
    fun _ => by simp
  have hinv : Inv s' := run_invariant (fun _ _ _ hs hstep => hs.step dumps hstep) h.closeAll hrun
  rcases run_closing h.closeAll hrun hclosed hclosing with
    ⟨⟨es, hlog⟩, st', hst', hclosing', htenant, hcount⟩
  have haccount := h.closeAll.accounts.accounted id _ hclosed
  have hl' : ({ st with queue := st.queue ++ [.close] } : Stream).phase.isLive = true := hl
  rcases (accounted_live hl').mp haccount with ⟨hreg, _, hitems⟩
  have hbefore : beforeClose (itemsSince id st.tenant s'.log) =
      enqueuedBeforeMarker s id st.tenant := by
    rw [← hlog, itemsSince_append hreg]
    apply beforeClose_append
    rw [← hitems]
    simp
  have hyields := (hinv.accounts.accounted id st' hst').yields
  rw [htenant, hbefore] at hyields
  refine ⟨st', hst', hyields.left, hyields.right, closing_advances dumps hst' hclosing', ?_⟩
  have hlength : ({ st with queue := st.queue ++ [.close] } : Stream).remaining <=
      (enqueuedBeforeMarker s id st.tenant).length + 1 := by
    have hall : enqueuedBeforeMarker s id st.tenant = yieldsOf id s.closeAll.log ++
        beforeClose (st.phase.held ++ (st.queue ++ [.close])) := by
      rw [enqueuedBeforeMarker, ← hitems, beforeClose_messages]
    rw [hall, List.length_append]
    unfold Stream.remaining
    cases hp : st.phase with
    | taken item =>
        cases item with
        | close => simp
        | message text =>
            simp [Phase.held, beforeClose]
            omega
    | ended reason => simp
    | refused => simp
    | _ =>
        simp [Phase.held]
  omega

theorem drainingAfter_closed (before between : List Event) (h : Event.reopened ∉ between) :
    drainingAfter (before ++ .closedAll :: between) = true := by
  rw [drainingAfter_append, List.foldl_cons]
  show between.foldl _ true = true
  induction between with
  | nil => rfl
  | cons e rest ih =>
      have hrest : Event.reopened ∉ rest := fun hmem => h (List.mem_cons_of_mem e hmem)
      cases e with
      | reopened => exact absurd List.mem_cons_self h
      | _ => exact ih hrest

/-- In every state that an interleaving of streams, notifications, disconnects,
`close_all` and `reopen` reaches, the broadcaster delivers and drains. -/
theorem broadcaster_delivers_and_drains (dumps : δ -> String) (s : Broadcaster)
    (h : Reachable (Broadcaster.step dumps) Broadcaster.initial s) :
    DeliversAndDrains dumps s := by
  have hinv := inv_of_reachable h
  refine ⟨hinv.consistent.nonempty, ?_, ?_, ?_, ?_, ?_⟩
  · intro id st hst hl
    constructor
    · apply List.count_eq_one_of_mem (hinv.consistent.nodup st.tenant)
      exact (hinv.consistent.mem _ _).mpr ⟨st, hst, hl, rfl⟩
    · intro t ht hmem
      rcases (hinv.consistent.mem t id).mp hmem with ⟨st', hst', _, ht'⟩
      rw [hst] at hst'
      cases hst'
      exact ht ht'.symm
  · intro id st hst
    exact (hinv.accounts.accounted id st hst).yields.left.trans (beforeClose_isPrefix _)
  · intro before id text after heq
    exact hinv.ordered before _ after heq
  · intro id st actions s' hst hl hrun
    exact hinv.drains dumps hst hl hrun
  · intro before between id t after heq
    by_contra hnot
    have hallowed := hinv.ordered (before ++ .closedAll :: between) (.registered id t) after
      (by rw [heq, List.append_assoc, List.cons_append])
    have hdraining := drainingAfter_closed before between hnot
    change drainingAfter _ = false at hallowed
    rw [hdraining] at hallowed
    cases hallowed

def drainedRun : List (Action String) :=
  [.subscribe "a", .subscribe "b", .notify "a" "poll-alerts" "{}", .resume 0, .take 0,
    .deliver 0, .notify "a" "poll-alerts" "[]", .closeAll, .notify "a" "alert-update" "{}"]

def drainedState : Broadcaster where
  connections := [("a", [0]), ("b", [1])]
  draining := true
  streams := [
    { tenant := "a"
      queue := [.message (formatSse id "poll-alerts" "[]"), .close,
        .message (formatSse id "alert-update" "{}")]
      phase := .suspended },
    { tenant := "b", queue := [.close], phase := .suspended }]
  log := [.registered 0 "a", .connected 0, .registered 1 "b", .connected 1,
    .notified "a" (formatSse id "poll-alerts" "{}"),
    .yielded 0 (formatSse id "poll-alerts" "{}"),
    .notified "a" (formatSse id "poll-alerts" "[]"), .closedAll,
    .notified "a" (formatSse id "alert-update" "{}")]

theorem drainedState_delivers_and_drains :
    DeliversAndDrains (fun text : String => text) drainedState :=
  broadcaster_delivers_and_drains _ drainedState ⟨drainedRun, rfl⟩

end Sse
end KeepGateway
