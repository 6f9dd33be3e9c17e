import KeepGateway.Sse.Fanout
import Mathlib.Data.List.Basic

/-!
# No lost local notification

A `broadcast()` that does not tell its own streams directly leaves them to the
subscription it sampled.  What that subscription has passed since the call began
it has handed over, so the notification can only be missing when the connection
was lost before it reached the message.
-/

namespace KeepGateway
namespace Sse

open Run

variable {δ : Type}

/-!
## What a call caused
-/

/-- A message of call `id` of process `p` at a position of the channel. -/
def LandedAt (channel : List (Message δ)) (p id index : Nat) : Prop :=
  exists m, channel[index]? = some m ∧ m.isFrom p id = true

def CausedBy (channel : List (Message δ)) (p id : Nat) (h : Handoff δ) : Prop :=
  h.via = .direct id ∨ exists index, h.via = .channel index ∧ LandedAt channel p id index

def SameAddress (a b : Notification δ) : Prop :=
  a.tenant = b.tenant ∧ a.event = b.event

/-- One of the hand-offs stems from the call and is for its tenant and event. -/
def Notified (channel : List (Message δ)) (p : Nat) (handed : List (Handoff δ)) (id : Nat)
    (call : Call δ) : Prop :=
  exists h, h ∈ handed ∧ CausedBy channel p id h ∧ SameAddress h.notification call.request

/-- The call left the delivery to a subscription whose connection was lost before it had
handed over the message. -/
def CutOff (channel : List (Message δ)) (p : Nat) (proc : Process δ) (id : Nat)
    (call : Call δ) : Prop :=
  call.status = .relied ∧
    exists n stopped index, call.sampled = some n ∧ proc.ended[n - 1]? = some stopped ∧
      LandedAt channel p id index ∧ stopped <= index

def Call.Returned (call : Call δ) : Prop :=
  call.status = .told ∨ call.status = .relied

/-- Subscribed, with nothing more to receive. -/
def CaughtUp (channel : List (Message δ)) (proc : Process δ) : Prop :=
  proc.subscribed = true ∧ proc.connection = .live channel.length

/-- Where each acknowledged subscription stands or stopped, the first one first. -/
def Process.cursors (proc : Process δ) : List Nat :=
  proc.ended ++ proc.connection.cursor.toList

theorem Message.origin_of_isFrom {m : Message δ} {p id : Nat} (h : m.isFrom p id = true) :
    m.origin = some p := by
  cases m with
  | malformed => cases h
  | published origin call body =>
      have horigin : origin = p := by simpa using (Bool.and_eq_true_iff.mp h).1
      rw [horigin]
      rfl

theorem LandedAt.append {channel : List (Message δ)} {p id index : Nat}
    (h : LandedAt channel p id index) (entries : List (Message δ)) :
    LandedAt (channel ++ entries) p id index := by
  rcases h with ⟨m, hm, hfrom⟩
  have hlt := (List.getElem?_eq_some_iff.mp hm).1
  exact ⟨m, by rw [List.getElem?_append_left hlt]; exact hm, hfrom⟩

theorem LandedAt.of_append {channel entries : List (Message δ)} {p id index : Nat}
    (h : LandedAt (channel ++ entries) p id index) :
    LandedAt channel p id index ∨
      channel.length <= index ∧ exists m, m ∈ entries ∧ m.isFrom p id = true := by
  rcases h with ⟨m, hm, hfrom⟩
  by_cases hlt : index < channel.length
  · rw [List.getElem?_append_left hlt] at hm
    exact Or.inl ⟨m, hm, hfrom⟩
  · have hle := Nat.le_of_not_lt hlt
    rw [List.getElem?_append_right hle] at hm
    exact Or.inr ⟨hle, m, List.mem_of_getElem? hm, hfrom⟩

theorem Notified.append {channel : List (Message δ)} {p id : Nat} {handed : List (Handoff δ)}
    {call : Call δ} (h : Notified channel p handed id call) (entries : List (Message δ))
    (more : List (Handoff δ)) : Notified (channel ++ entries) p (handed ++ more) id call := by
  rcases h with ⟨handoff, hmem, hcaused, haddress⟩
  refine ⟨handoff, List.mem_append_left _ hmem, ?_, haddress⟩
  rcases hcaused with hdirect | ⟨index, hvia, hlanded⟩
  · exact Or.inl hdirect
  · exact Or.inr ⟨index, hvia, hlanded.append entries⟩

/-!
## The delivery invariant
-/

/-- What holds of one call, given where the subscriptions of its process stand and what
the process handed over. -/
structure Delivers (channel : List (Message δ)) (p : Nat) (cursors : List Nat)
    (handed : List (Handoff δ)) (id : Nat) (call : Call δ) : Prop where
  carries : forall m, m ∈ channel -> m.isFrom p id = true ->
    exists body, m.body = some body ∧ SameAddress body call.request
  sampled : forall n, call.sampled = some n -> 1 <= n ∧ n <= cursors.length
  passed : forall n cursor index, call.sampled = some n -> cursors[n - 1]? = some cursor ->
    LandedAt channel p id index -> index < cursor -> Notified channel p handed id call
  told : call.status = .told -> Notified channel p handed id call
  relied : call.status = .relied ->
    exists n index, call.sampled = some n ∧ LandedAt channel p id index

structure DeliveryInv (channel : List (Message δ)) (p : Nat) (proc : Process δ) : Prop where
  counted : proc.subscription = proc.cursors.length
  subscribed : proc.subscribed = true -> proc.connection.cursor.isSome = true
  bounded : forall cursor, cursor ∈ proc.cursors -> cursor <= channel.length
  registered : forall next, proc.connection = .registered next -> next <= channel.length
  issued : forall id index, LandedAt channel p id index -> id < proc.calls.length
  delivers : forall id call, proc.calls[id]? = some call ->
    Delivers channel p proc.cursors proc.handed id call

variable {channel : List (Message δ)} {p : Nat}

/-- A new message lies behind every cursor. -/
theorem Delivers.append {cursors : List Nat} {handed : List (Handoff δ)} {id : Nat}
    {call : Call δ} (h : Delivers channel p cursors handed id call)
    (hbounded : forall cursor, cursor ∈ cursors -> cursor <= channel.length)
    (entries : List (Message δ)) (hentries : forall m, m ∈ entries -> m.isFrom p id = true ->
      exists body, m.body = some body ∧ SameAddress body call.request) :
    Delivers (channel ++ entries) p cursors handed id call where
  carries := fun m hm =>
    match List.mem_append.mp hm with
    | Or.inl hold => h.carries m hold
    | Or.inr hnew => hentries m hnew
  sampled := h.sampled
  passed := by
    intro n cursor index hn hcursor hlanded hlt
    rcases hlanded.of_append with hold | ⟨hle, _⟩
    · simpa using (h.passed n cursor index hn hcursor hold hlt).append entries []
    · have hcursorLe := hbounded cursor (List.mem_of_getElem? hcursor)
      exact absurd (Nat.lt_of_lt_of_le hlt hcursorLe) (Nat.not_lt.mpr hle)
  told := fun hstatus => by simpa using (h.told hstatus).append entries []
  relied := by
    intro hstatus
    rcases h.relied hstatus with ⟨n, index, hn, hlanded⟩
    exact ⟨n, index, hn, hlanded.append entries⟩

theorem Delivers.hand {cursors : List Nat} {handed : List (Handoff δ)} {id : Nat}
    {call : Call δ} (h : Delivers channel p cursors handed id call) (more : List (Handoff δ)) :
    Delivers channel p cursors (handed ++ more) id call where
  carries := h.carries
  sampled := h.sampled
  passed := fun n cursor index hn hcursor hlanded hlt => by
    simpa using (h.passed n cursor index hn hcursor hlanded hlt).append [] more
  told := fun hstatus => by simpa using (h.told hstatus).append [] more
  relied := h.relied

/-- The call was made before the new subscription, so it did not sample it. -/
theorem Delivers.acknowledge {cursors : List Nat} {handed : List (Handoff δ)} {id : Nat}
    {call : Call δ} (h : Delivers channel p cursors handed id call) (next : Nat) :
    Delivers channel p (cursors ++ [next]) handed id call where
  carries := h.carries
  sampled := by
    intro n hn
    rcases h.sampled n hn with ⟨hpos, hle⟩
    exact ⟨hpos, Nat.le_trans hle (by simp)⟩
  passed := by
    intro n cursor index hn hcursor
    rcases h.sampled n hn with ⟨hpos, hle⟩
    rw [List.getElem?_append_left (by omega)] at hcursor
    exact h.passed n cursor index hn hcursor
  told := h.told
  relied := h.relied

/-- Moving on by one message hands it over. -/
theorem Delivers.receive {ended : List Nat} {handed : List (Handoff δ)} {id next : Nat}
    {call : Call δ} {m : Message δ} (h : Delivers channel p (ended ++ [next]) handed id call)
    (hm : channel[next]? = some m) :
    Delivers channel p (ended ++ [next + 1])
      (handed ++ (m.body.map fun body =>
        ({ notification := body, via := .channel next } : Handoff δ)).toList) id call where
  carries := h.carries
  sampled := by
    intro n hn
    simpa using h.sampled n hn
  passed := by
    intro n cursor index hn hcursor hlanded hlt
    by_cases hlast : n - 1 < ended.length
    · rw [List.getElem?_append_left hlast] at hcursor
      have hold : (ended ++ [next])[n - 1]? = some cursor := by
        rw [List.getElem?_append_left hlast]
        exact hcursor
      simpa using (h.passed n cursor index hn hold hlanded hlt).append [] _
    · rcases h.sampled n hn with ⟨hpos, hle⟩
      have hn1 : n - 1 = ended.length := by
        simp at hle
        omega
      rw [hn1, List.getElem?_append_right (Nat.le_refl _)] at hcursor
      have hcursor' : cursor = next + 1 := by simpa using hcursor.symm
      rw [hcursor'] at hlt
      rcases Nat.lt_succ_iff_lt_or_eq.mp hlt with hbefore | hnow
      · have hold : (ended ++ [next])[n - 1]? = some next := by
          rw [hn1, List.getElem?_append_right (Nat.le_refl _)]
          simp
        simpa using (h.passed n next index hn hold hlanded hbefore).append [] _
      · subst hnow
        rcases hlanded with ⟨m', hm', hfrom⟩
        rw [hm] at hm'
        cases hm'
        rcases h.carries m (List.mem_of_getElem? hm) hfrom with ⟨body, hbody, haddress⟩
        refine ⟨{ notification := body, via := .channel index }, ?_, ?_, haddress⟩
        · simp [hbody]
        · exact Or.inr ⟨index, rfl, m, hm, hfrom⟩
  told := fun hstatus => by simpa using (h.told hstatus).append [] _
  relied := h.relied

/-- Asking for the delivery to be left to a subscription needs one that stands. -/
theorem Process.sampled_of_relies {proc : Process δ} {published : Bool} {sampled : Option Nat}
    (h : proc.relies published sampled = true) : published = true ∧ exists n, sampled = some n := by
  cases sampled with
  | none => cases h
  | some n =>
      simp only [Process.relies, Bool.and_eq_true] at h
      exact ⟨h.1.1, n, rfl⟩

/-- The call after `_publish`, in the state its process is left in. -/
theorem Delivers.resume {json : Json δ} {proc : Process δ} {id : Nat} {call : Call δ}
    {published : Bool} (h : Delivers channel p proc.cursors proc.handed id call)
    (hlanded : published = true -> channel.any (Message.isFrom p id) = true) {call' : Call δ}
    (hcall' : (proc.resume json id call published).calls = proc.calls.set id call')
    (hid : id < proc.calls.length) :
    Delivers channel p proc.cursors (proc.resume json id call published).handed id call' := by
  have hset : forall status, proc.calls.set id { call with status := status } =
      proc.calls.set id call' -> call' = { call with status := status } := by
    intro status heq
    have hget := congrArg (fun calls : List (Call δ) => calls[id]?) heq
    simpa [hid] using hget.symm
  unfold Process.resume at hcall' ⊢
  split at hcall'
  · rename_i hrelies
    rw [if_pos hrelies]
    have heq := hset .relied hcall'
    subst heq
    rcases Process.sampled_of_relies hrelies with ⟨hpublished, n, hn⟩
    refine ⟨h.carries, h.sampled, h.passed, (fun hstatus => by cases hstatus), fun _ => ?_⟩
    rcases List.any_eq_true.mp (hlanded hpublished) with ⟨m, hm, hfrom⟩
    rcases List.getElem?_of_mem hm with ⟨index, hindex⟩
    exact ⟨n, index, hn, m, hindex, hfrom⟩
  · rename_i hrelies
    rw [if_neg hrelies]
    have heq := hset .told hcall'
    subst heq
    have hhand := h.hand [{ notification := fallback json call.request, via := .direct id }]
    refine ⟨h.carries, h.sampled, hhand.passed, fun _ => ?_, (fun hstatus => by cases hstatus)⟩
    exact ⟨_, List.mem_append_right _ (List.mem_singleton.mpr rfl), Or.inl rfl, rfl, rfl⟩

variable {json : Json δ} {proc : Process δ}

theorem DeliveryInv.append (h : DeliveryInv channel p proc) (entries : List (Message δ))
    (hissued : forall id m, m ∈ entries -> m.isFrom p id = true -> exists call body,
      proc.calls[id]? = some call ∧ m.body = some body ∧ SameAddress body call.request) :
    DeliveryInv (channel ++ entries) p proc := by
  have hlength : channel.length <= (channel ++ entries).length := by simp
  refine ⟨h.counted, h.subscribed, ?_, ?_, ?_, ?_⟩
  · intro cursor hcursor
    exact Nat.le_trans (h.bounded cursor hcursor) hlength
  · intro next hnext
    exact Nat.le_trans (h.registered next hnext) hlength
  · intro id index hlanded
    rcases hlanded.of_append with hold | ⟨_, m, hm, hfrom⟩
    · exact h.issued id index hold
    · rcases hissued id m hm hfrom with ⟨call, body, hcall, _⟩
      exact (List.getElem?_eq_some_iff.mp hcall).1
  · intro id call hcall
    apply (h.delivers id call hcall).append h.bounded entries
    intro m hm hfrom
    rcases hissued id m hm hfrom with ⟨call', body, hcall', hbody, haddress⟩
    rw [hcall] at hcall'
    cases hcall'
    exact ⟨body, hbody, haddress⟩

/-- A step of the subscribe loop that leaves the cursors and the hand-offs. -/
theorem DeliveryInv.reconnect (h : DeliveryInv channel p proc) {proc' : Process δ}
    (hcursors : proc'.cursors = proc.cursors) (hsubscription : proc'.subscription = proc.subscription)
    (hcalls : proc'.calls = proc.calls) (hhanded : proc'.handed = proc.handed)
    (hsubscribed : proc'.subscribed = true -> proc'.connection.cursor.isSome = true)
    (hregistered : forall next, proc'.connection = .registered next -> next <= channel.length) :
    DeliveryInv channel p proc' := by
  refine ⟨?_, hsubscribed, ?_, hregistered, ?_, ?_⟩
  · rw [hsubscription, hcursors]
    exact h.counted
  · rw [hcursors]
    exact h.bounded
  · rw [hcalls]
    exact h.issued
  · rw [hcalls, hcursors, hhanded]
    exact h.delivers

theorem DeliveryInv.broadcast (h : DeliveryInv channel p proc) (request : Notification δ) :
    DeliveryInv channel p (proc.broadcast json request) := by
  refine ⟨h.counted, h.subscribed, h.bounded, h.registered, ?_, ?_⟩
  · intro id index hlanded
    have hid := h.issued id index hlanded
    simp only [Process.broadcast, List.length_append]
    omega
  · intro id call hcall
    by_cases hid : id < proc.calls.length
    · have hcall' : proc.calls[id]? = some call := by
        rw [← hcall]
        exact (List.getElem?_append_left hid).symm
      exact h.delivers id call hcall'
    · have hnew : forall index, ¬ LandedAt channel p id index :=
        fun index hlanded => hid (h.issued id index hlanded)
      have hle := Nat.le_of_not_lt hid
      simp only [Process.broadcast] at hcall
      rw [List.getElem?_append_right hle] at hcall
      have hmem := List.mem_of_getElem? hcall
      have heq := List.mem_singleton.mp hmem
      refine ⟨?_, ?_, fun n cursor index _ _ hlanded => absurd hlanded (hnew index), ?_, ?_⟩
      · intro m hm hfrom
        rcases List.getElem?_of_mem hm with ⟨index, hindex⟩
        exact absurd ⟨m, hindex, hfrom⟩ (hnew index)
      · intro n hn
        rw [heq] at hn
        have hsub : proc.subscribed = true := by
          cases hb : proc.subscribed with
          | true => rfl
          | false => simp [hb] at hn
        have hn' : proc.subscription = n := by simpa [hsub] using hn
        have hcursor := h.subscribed hsub
        rcases Option.isSome_iff_exists.mp hcursor with ⟨next, hnext⟩
        have hlen : proc.cursors.length = proc.ended.length + 1 := by
          simp [Process.cursors, hnext]
        have hcounted := h.counted
        show 1 <= n ∧ n <= proc.cursors.length
        omega
      · intro hstatus
        rw [heq] at hstatus
        cases hw : (json.wire request.data).isSome <;> simp [hw] at hstatus
      · intro hstatus
        rw [heq] at hstatus
        cases hw : (json.wire request.data).isSome <;> simp [hw] at hstatus

theorem DeliveryInv.resume (h : DeliveryInv channel p proc) {id : Nat} {call : Call δ}
    {published : Bool} (hcall : proc.calls[id]? = some call)
    (hlanded : published = true -> channel.any (Message.isFrom p id) = true) :
    DeliveryInv channel p (proc.resume json id call published) := by
  have hid := (List.getElem?_eq_some_iff.mp hcall).1
  have hcalls : exists call', (proc.resume json id call published).calls =
      proc.calls.set id call' := by
    unfold Process.resume
    split <;> exact ⟨_, rfl⟩
  have hframe : (proc.resume json id call published).cursors = proc.cursors ∧
      (proc.resume json id call published).subscription = proc.subscription ∧
      (proc.resume json id call published).subscribed = proc.subscribed ∧
      (proc.resume json id call published).connection = proc.connection ∧
      exists more, (proc.resume json id call published).handed = proc.handed ++ more := by
    unfold Process.resume
    split
    · exact ⟨rfl, rfl, rfl, rfl, [], (List.append_nil _).symm⟩
    · exact ⟨rfl, rfl, rfl, rfl, _, rfl⟩
  rcases hcalls with ⟨call', hcalls⟩
  rcases hframe with ⟨hcursors, hsubscription, hsubscribed, hconnection, more, hmore⟩
  refine ⟨?_, ?_, ?_, ?_, ?_, ?_⟩
  · rw [hsubscription, hcursors]
    exact h.counted
  · rw [hsubscribed, hconnection]
    exact h.subscribed
  · rw [hcursors]
    exact h.bounded
  · rw [hconnection]
    exact h.registered
  · rw [hcalls, List.length_set]
    exact h.issued
  · intro other othercall hother
    rw [hcursors]
    rw [hcalls] at hother
    by_cases heq : id = other
    · subst heq
      rw [List.getElem?_set_self hid] at hother
      cases hother
      exact (h.delivers id call hcall).resume hlanded hcalls hid
    · rw [List.getElem?_set_ne heq] at hother
      rw [hmore]
      exact (h.delivers other othercall hother).hand more

theorem Process.deliver_eq (proc : Process δ) (next : Nat) (m : Message δ) :
    proc.deliver next m =
      { proc with
        handed := proc.handed ++ (m.body.map fun body =>
          ({ notification := body, via := .channel next } : Handoff δ)).toList } := by
  unfold Process.deliver
  cases m.body <;> simp

theorem DeliveryInv.receive (h : DeliveryInv channel p proc) {next : Nat} {m : Message δ}
    (hconn : proc.connection = .live next) (hm : channel[next]? = some m) :
    DeliveryInv channel p { proc.deliver next m with connection := .live (next + 1) } := by
  have hcursors : proc.cursors = proc.ended ++ [next] := by
    unfold Process.cursors
    rw [hconn]
    rfl
  have hlt := (List.getElem?_eq_some_iff.mp hm).1
  rw [Process.deliver_eq]
  refine ⟨?_, fun _ => rfl, ?_, ?_, h.issued, ?_⟩
  · show proc.subscription = (proc.ended ++ [next + 1]).length
    rw [h.counted, hcursors]
    simp
  · intro cursor hcursor
    rcases List.mem_append.mp hcursor with hended | hlast
    · apply h.bounded
      rw [hcursors]
      exact List.mem_append_left _ hended
    · rw [List.mem_singleton.mp hlast]
      exact hlt
  · intro position hposition
    cases hposition
  · intro id call hcall
    have hdelivers := h.delivers id call hcall
    rw [hcursors] at hdelivers
    exact hdelivers.receive hm

theorem DeliveryInv.acknowledge (h : DeliveryInv channel p proc) {next : Nat}
    (hconn : proc.connection = .registered next) :
    DeliveryInv channel p
      { proc with
        subscription := proc.subscription + 1
        subscribed := true
        connection := .live next } := by
  have hcursors : proc.cursors = proc.ended := by
    unfold Process.cursors
    rw [hconn]
    exact List.append_nil _
  refine ⟨?_, fun _ => rfl, ?_, ?_, h.issued, ?_⟩
  · show proc.subscription + 1 = (proc.ended ++ [next]).length
    rw [h.counted, hcursors]
    simp
  · intro cursor hcursor
    rcases List.mem_append.mp hcursor with hended | hlast
    · apply h.bounded
      rw [hcursors]
      exact hended
    · rw [List.mem_singleton.mp hlast]
      exact h.registered next hconn
  · intro position hposition
    cases hposition
  · intro id call hcall
    have hdelivers := h.delivers id call hcall
    rw [hcursors] at hdelivers
    exact hdelivers.acknowledge next

theorem DeliveryInv.own {proc' : Process δ} {entries : List (Message δ)}
    (h : DeliveryInv channel p proc) (hstep : Process.Step json channel p proc proc' entries) :
    DeliveryInv (channel ++ entries) p proc' := by
  cases hstep with
  | broadcast request => exact (List.append_nil channel).symm ▸ h.broadcast request
  | land id call data hcall =>
      apply h.append
      intro other m hm hfrom
      rw [List.mem_singleton.mp hm] at hfrom ⊢
      have hother : id = other := by simpa using (Bool.and_eq_true_iff.mp hfrom).2
      rw [← hother]
      exact ⟨call, _, hcall, rfl, rfl, rfl⟩
  | resume id call published hcall _ hlanded =>
      exact (List.append_nil channel).symm ▸ h.resume hcall hlanded
  | subscribe hconn =>
      rw [List.append_nil]
      refine h.reconnect ?_ rfl rfl rfl ?_ fun _ hnext => by cases hnext
      · simp [Process.cursors, hconn, Connection.cursor]
      · intro hsubscribed
        have hcursor := h.subscribed hsubscribed
        simp [hconn, Connection.cursor] at hcursor
  | register hconn =>
      rw [List.append_nil]
      refine h.reconnect ?_ rfl rfl rfl ?_ ?_
      · simp [Process.cursors, hconn, Connection.cursor]
      · intro hsubscribed
        have hcursor := h.subscribed hsubscribed
        simp [hconn, Connection.cursor] at hcursor
      · intro next hnext
        cases hnext
        exact Nat.le_refl _
  | acknowledge next hconn => exact (List.append_nil channel).symm ▸ h.acknowledge hconn
  | receive next m hconn hm => exact (List.append_nil channel).symm ▸ h.receive hconn hm
  | die next hconn =>
      rw [List.append_nil]
      refine h.reconnect ?_ rfl rfl rfl (fun _ => rfl) fun _ hnext => by cases hnext
      simp [Process.cursors, hconn, Connection.cursor]
  | lose hconn =>
      rw [List.append_nil]
      refine h.reconnect ?_ rfl rfl rfl ?_ fun _ hnext => by cases hnext
      · simp [Process.cursors, Process.lose, Connection.cursor]
      · intro hsubscribed
        cases hsubscribed

theorem deliveryInv_local (json : Json δ) :
    SharedLog.LocalInvariant (fanout json) Message.origin DeliveryInv where
  signed := fun _ _ _ _ _ _ hact => Process.act_signed hact
  unsigned := outside_unsigned json
  own := fun _ _ _ _ _ _ h hact => h.own (Process.act_cases hact)
  others := fun _ _ _ entries h hothers => h.append entries fun _ m hm hfrom =>
    absurd (Message.origin_of_isFrom hfrom) (hothers m hm)

theorem deliveryInv_initial (p : Nat) : DeliveryInv ([] : List (Message δ)) p .initial := by
  refine ⟨rfl, ?_, ?_, ?_, ?_, ?_⟩
  · intro hsubscribed
    cases hsubscribed
  · intro cursor hcursor
    cases hcursor
  · intro next hnext
    cases hnext
  · intro id index hlanded
    rcases hlanded with ⟨m, hm, _⟩
    cases hm
  · intro id call hcall
    cases hcall

theorem deliveryInv_of_reachable {processes : Nat} {s : Fanout δ}
    (hreach : Reachable (SharedLog.step (fanout json)) (Fanout.initial processes) s) :
    SharedLog.Everywhere DeliveryInv s := by
  apply (deliveryInv_local json).everywhere _ hreach
  intro p proc hp
  rw [List.eq_of_mem_replicate (List.mem_of_getElem? hp)]
  exact deliveryInv_initial p

/-!
## Returned broadcasts
-/

/-- A run that ends with the process subscribed and caught up lost no notification of it. -/
def NoNotificationLost (json : Json δ) (processes : Nat) : Prop :=
  forall (s : Fanout δ) (p : Nat) (proc : Process δ) (id : Nat) (call : Call δ),
    Reachable (SharedLog.step (fanout json)) (Fanout.initial processes) s ->
      s.agents[p]? = some proc -> CaughtUp s.log proc -> proc.calls[id]? = some call ->
        call.Returned -> Notified s.log p proc.handed id call

/-- In every run that ends with the process subscribed and caught up, each `broadcast()`
that returned caused a notification, or was cut off: it left the delivery to a
subscription whose connection was lost before it had handed over the message. -/
theorem returned_notified_or_cutOff (json : Json δ) (processes : Nat) (s : Fanout δ) (p : Nat)
    (proc : Process δ) (id : Nat) (call : Call δ)
    (hreach : Reachable (SharedLog.step (fanout json)) (Fanout.initial processes) s)
    (hp : s.agents[p]? = some proc) (hcaught : CaughtUp s.log proc)
    (hcall : proc.calls[id]? = some call) (hreturned : call.Returned) :
    Notified s.log p proc.handed id call ∨ CutOff s.log p proc id call := by
  have hinv := deliveryInv_of_reachable hreach p proc hp
  have hdelivers := hinv.delivers id call hcall
  rcases hreturned with htold | hrelied
  · exact Or.inl (hdelivers.told htold)
  · rcases hdelivers.relied hrelied with ⟨n, index, hn, hlanded⟩
    rcases hdelivers.sampled n hn with ⟨hpos, hle⟩
    have hlt : n - 1 < proc.cursors.length := by omega
    have hcursor := List.getElem?_eq_getElem hlt
    by_cases hpassed : index < proc.cursors[n - 1]
    · exact Or.inl (hdelivers.passed n _ index hn hcursor hlanded hpassed)
    · right
      refine ⟨hrelied, n, proc.cursors[n - 1], index, hn, ?_, hlanded, Nat.le_of_not_lt hpassed⟩
      by_cases hended : n - 1 < proc.ended.length
      · rw [← hcursor]
        exact (List.getElem?_append_left hended).symm
      · -- the subscription still stands, and has passed the whole channel
        exfalso
        apply hpassed
        have hlast : proc.cursors[n - 1]? = some s.log.length := by
          unfold Process.cursors at hle ⊢
          rw [hcaught.2] at hle ⊢
          have heq : n - 1 = proc.ended.length := by
            simp [Connection.cursor] at hle
            omega
          rw [heq, List.getElem?_append_right (Nat.le_refl _)]
          simp [Connection.cursor]
        rw [hcursor] at hlast
        rw [Option.some.inj hlast]
        rcases hlanded with ⟨m, hm, _⟩
        exact (List.getElem?_eq_some_iff.mp hm).1

/-- The connection dies unnoticed while the message is published, and the process
reconnects. -/
def unnoticedDeath : List (SharedLog.Action Unit (Act String)) :=
  [.agent 0 .subscribe, .agent 0 .register, .agent 0 .acknowledge,
    .agent 0 (.broadcast (pollAlerts "[1]")), .agent 0 .die, .agent 0 (.land 0),
    .agent 0 (.published 0), .agent 0 .lose, .agent 0 .subscribe, .agent 0 .register,
    .agent 0 .acknowledge]

def afterDeath : Process String where
  subscribed := true
  subscription := 2
  connection := .live 1
  ended := [0]
  calls := [{ request := pollAlerts "[1]", sampled := some 1, status := .relied }]
  handed := []

theorem notification_lost : ¬ NoNotificationLost textJson 1 := by
  intro h
  have hnotified := h { log := [.published 0 0 (pollAlerts "[1]")], agents := [afterDeath] } 0 afterDeath 0
    { request := pollAlerts "[1]", sampled := some 1, status := .relied } ⟨unnoticedDeath, rfl⟩ rfl
    ⟨rfl, rfl⟩ rfl (Or.inr rfl)
  rcases hnotified with ⟨handoff, hmem, _⟩
  cases hmem

theorem afterDeath_notified_or_cutOff :
    Notified [.published 0 0 (pollAlerts "[1]")] 0 afterDeath.handed 0
        { request := pollAlerts "[1]", sampled := some 1, status := .relied } ∨
      CutOff [.published 0 0 (pollAlerts "[1]")] 0 afterDeath 0
        { request := pollAlerts "[1]", sampled := some 1, status := .relied } :=
  returned_notified_or_cutOff textJson 1
    { log := [.published 0 0 (pollAlerts "[1]")], agents := [afterDeath] } 0 afterDeath 0
    { request := pollAlerts "[1]", sampled := some 1, status := .relied } ⟨unnoticedDeath, rfl⟩ rfl
    ⟨rfl, rfl⟩ rfl (Or.inr rfl)

end Sse
end KeepGateway
