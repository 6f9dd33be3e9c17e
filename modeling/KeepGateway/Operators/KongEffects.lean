import Mathlib.Data.List.Nodup
import KeepGateway.Operators.Kong

/-!
# Effects on Kong

What the calls of `KongIntegration` do to the consumers and their keys.
-/

namespace KeepGateway
namespace Operators

/-!
## Whatever fails
-/

/-- Nothing of the consumers changed but the keys of those that the reference is for. -/
def OnlyKeys (ref : ConsumerRef) (s s' : KongState) : Prop :=
  exists f : Consumer -> List KeyAuth, s'.consumers = s.consumers.map fun c =>
    if ref.refersTo c then { c with keys := f c } else c

theorem refersTo_keys (ref : ConsumerRef) (c : Consumer) (keys : List KeyAuth) :
    ref.refersTo { c with keys := keys } = ref.refersTo c := by
  cases ref with
  | id n => rfl
  | username name => rfl

theorem OnlyKeys.refl (ref : ConsumerRef) (s : KongState) : OnlyKeys ref s s := by
  refine ⟨fun c => c.keys, ?_⟩
  rw [List.map_congr_left (g := id)]
  · exact (List.map_id _).symm
  · intro c _
    split
    · rfl
    · rfl

theorem OnlyKeys.trans {ref : ConsumerRef} {s t u : KongState} (h : OnlyKeys ref s t)
    (h' : OnlyKeys ref t u) : OnlyKeys ref s u := by
  rcases h with ⟨f, hf⟩
  rcases h' with ⟨g, hg⟩
  refine ⟨fun c => g { c with keys := f c }, ?_⟩
  rw [hg, hf, List.map_map]
  apply List.map_congr_left
  intro c _
  rw [Function.comp_apply]
  cases hrefers : ref.refersTo c with
  | true => rw [if_pos rfl, refersTo_keys, hrefers, if_pos rfl, if_pos rfl]
  | false =>
      have hnot : ¬ false = true := Bool.false_ne_true
      rw [if_neg hnot, if_neg hnot, hrefers, if_neg hnot]

theorem onlyKeys_modifyKeys (ref : ConsumerRef) (s : KongState)
    (f : List KeyAuth -> List KeyAuth) : OnlyKeys ref s (s.modifyKeys ref f) :=
  ⟨fun c => f c.keys, rfl⟩

section Effects

variable {build : KongBuild} {failing : Option RequestSite}

theorem onlyKeys_deleteKeys (round : Nat) (ref : ConsumerRef) (creds : List KeyAuth)
    (s : KongState) : OnlyKeys ref s (deleteKeys failing round ref creds s).2 := by
  induction creds generalizing s with
  | nil => exact .refl ref s
  | cons cred rest ih =>
      unfold deleteKeys
      split
      · exact .refl ref s
      · exact (onlyKeys_modifyKeys ref s _).trans (ih _)

theorem onlyKeys_deletePages (round : Nat) (ref : ConsumerRef) (page : Nat)
    (pages : List (List KeyAuth)) (s : KongState) :
    OnlyKeys ref s (deletePages failing round ref page pages s).2 := by
  induction pages generalizing page s with
  | nil => exact .refl ref s
  | cons data rest ih =>
      have hdata := @onlyKeys_deleteKeys failing round ref data s
      unfold deletePages
      split
      · exact .refl ref s
      · split
        · rename_i t hdeleted
          rw [hdeleted] at hdata
          exact hdata.trans (ih _ t)
        · rename_i e t hdeleted
          rw [hdeleted] at hdata
          exact hdata

theorem onlyKeys_deleteAll (round : Nat) (ref : ConsumerRef) (s : KongState) :
    OnlyKeys ref s (deleteAllConsumerKeyAuths build failing round ref s).2 := by
  unfold deleteAllConsumerKeyAuths
  split
  · exact .refl ref s
  · exact onlyKeys_deletePages round ref 0 _ s

theorem onlyKeys_postKeyAuth (round : Nat) (ref : ConsumerRef) (apiKey : Option Nat)
    (s : KongState) : OnlyKeys ref s (postKeyAuth build failing round ref apiKey s).2 := by
  unfold postKeyAuth
  split
  · exact .refl ref s
  · split
    · exact .refl ref s
    · exact ⟨fun c => c.keys ++ [⟨s.next, apiKey.getD (s.next + 1)⟩], rfl⟩

theorem onlyKeys_replaceKeys (round : Nat) (ref : ConsumerRef) (apiKey : Option Nat)
    (s : KongState) : OnlyKeys ref s (replaceKeys build failing round ref apiKey s).2 := by
  have hdeleted := @onlyKeys_deleteAll build failing round ref s
  unfold replaceKeys
  split
  · rename_i t heq
    rw [heq] at hdeleted
    exact hdeleted.trans (onlyKeys_postKeyAuth round ref apiKey t)
  · rename_i e t heq
    rw [heq] at hdeleted
    exact hdeleted

/-- However the keys of a consumer are synced, nothing else of the consumers changes. -/
theorem onlyKeys_syncKeyAuth (consumerId : Nat) (apiKey : Option Nat) (s : KongState) :
    OnlyKeys (.id consumerId) s (syncKeyAuth build failing consumerId apiKey s).2 := by
  have hfirst := @onlyKeys_replaceKeys build failing 0 (.id consumerId) apiKey s
  unfold syncKeyAuth
  split
  · rename_i e t heq
    rw [heq] at hfirst
    exact hfirst
  · rename_i key t heq
    rw [heq] at hfirst
    exact hfirst
  · rename_i t heq
    rw [heq] at hfirst
    split
    · exact hfirst
    · have hagain := @onlyKeys_replaceKeys build failing 1 (.id consumerId) (some t.next)
        { t with next := t.next + 1 }
      simp only
      split
      · rename_i e u heq'
        rw [heq'] at hagain
        exact hfirst.trans hagain
      · rename_i key u heq'
        rw [heq'] at hagain
        exact hfirst.trans hagain

end Effects

/-- What is left of the consumers under other names is what was there before. -/
theorem OnlyKeys.others {s s' : KongState} {ref : ConsumerRef} (h : OnlyKeys ref s s')
    {name : String}
    (hname : forall c, c ∈ s.consumers -> ref.refersTo c = true -> c.username = name) :
    (s'.consumers.filter fun c => c.username ≠ name) =
      s.consumers.filter fun c => c.username ≠ name := by
  rcases h with ⟨f, hf⟩
  rw [hf]
  generalize s.consumers = consumers at hname
  induction consumers with
  | nil => rfl
  | cons c rest ih =>
      rcases List.forall_mem_cons.mp hname with ⟨hfirst, hrest⟩
      rw [List.map_cons, List.filter_cons, List.filter_cons, ih hrest]
      cases hrefers : ref.refersTo c with
      | true =>
          have heq := hfirst hrefers
          simp [heq]
      | false => simp

/-!
## Requests that do not fail
-/

theorem modifyKeys_modifyKeys (s : KongState) (ref : ConsumerRef)
    (f g : List KeyAuth -> List KeyAuth) :
    (s.modifyKeys ref f).modifyKeys ref g = s.modifyKeys ref fun keys => g (f keys) := by
  unfold KongState.modifyKeys
  simp only [List.map_map]
  congr 1
  apply List.map_congr_left
  intro c _
  rw [Function.comp_apply]
  cases hrefers : ref.refersTo c with
  | true => rw [if_pos rfl, refersTo_keys, hrefers, if_pos rfl, if_pos rfl]
  | false =>
      have hnot : ¬ false = true := Bool.false_ne_true
      rw [if_neg hnot, if_neg hnot, hrefers, if_neg hnot]

theorem modifyKeys_id (s : KongState) (ref : ConsumerRef) :
    (s.modifyKeys ref fun keys => keys) = s := by
  unfold KongState.modifyKeys
  rw [List.map_congr_left (g := id)]
  · rw [List.map_id]
  · intro c _
    split
    · rfl
    · rfl

/-- The keys without those of some ids. -/
def without (creds keys : List KeyAuth) : List KeyAuth :=
  keys.filter fun k => k.id ∉ creds.map KeyAuth.id

theorem without_nil (keys : List KeyAuth) : without [] keys = keys :=
  List.filter_eq_self.mpr fun _ _ => decide_eq_true (List.not_mem_nil)

theorem without_append (first second keys : List KeyAuth) :
    without (first ++ second) keys = without second (without first keys) := by
  unfold without
  rw [List.filter_filter]
  apply List.filter_congr
  intro k _
  rw [List.map_append]
  simp only [List.mem_append, not_or, Bool.decide_and]
  exact Bool.and_comm _ _

theorem without_self (keys : List KeyAuth) : without keys keys = [] :=
  List.filter_eq_nil_iff.mpr fun _ hk h =>
    of_decide_eq_true h (List.mem_map_of_mem hk)

theorem deleteKeys_none (round : Nat) (ref : ConsumerRef) (creds : List KeyAuth)
    (s : KongState) :
    deleteKeys none round ref creds s = (.ok (), s.modifyKeys ref (without creds)) := by
  induction creds generalizing s with
  | nil =>
      have hid : without [] = fun keys => keys := funext without_nil
      rw [hid, modifyKeys_id]
      rfl
  | cons cred rest ih =>
      unfold deleteKeys
      rw [if_neg (fun h => by cases h), ih, modifyKeys_modifyKeys]
      have hwithout : (fun keys => without rest (keys.filter fun k => k.id ≠ cred.id)) =
          without (cred :: rest) := by
        funext keys
        have happend := without_append [cred] rest keys
        rw [List.singleton_append] at happend
        rw [happend]
        unfold without
        simp only [List.map_cons, List.map_nil, List.mem_singleton]
      rw [hwithout]

theorem deletePages_none (round : Nat) (ref : ConsumerRef) (page : Nat)
    (pages : List (List KeyAuth)) (s : KongState) :
    deletePages none round ref page pages s =
      (.ok (), s.modifyKeys ref (without pages.flatten)) := by
  induction pages generalizing page s with
  | nil =>
      have hid : without [].flatten = fun keys => keys := funext without_nil
      rw [hid, modifyKeys_id]
      rfl
  | cons data rest ih =>
      unfold deletePages
      rw [if_neg (fun h => by cases h), deleteKeys_none]
      simp only
      rw [ih, modifyKeys_modifyKeys, List.flatten_cons]
      have hwithout : (fun keys => without rest.flatten (without data keys)) =
          without (data ++ rest.flatten) :=
        funext fun keys => (without_append data rest.flatten keys).symm
      rw [hwithout]

theorem deleteAll_none (build : KongBuild) (round : Nat) (ref : ConsumerRef) (s : KongState) :
    deleteAllConsumerKeyAuths build none round ref s =
      match s.consumer? ref with
      | none => (.error .notFound, s)
      | some consumer => (.ok (), s.modifyKeys ref (without consumer.keys)) := by
  unfold deleteAllConsumerKeyAuths
  cases s.consumer? ref with
  | none => rfl
  | some consumer =>
      simp only
      rw [deletePages_none, build.pages_flatten]

/-- Deleting a consumer leaves the others as they were. -/
theorem deleteConsumer_consumers (build : KongBuild) (operator : String) (s : KongState) :
    (deleteConsumer build operator s).consumers =
      s.consumers.filter fun c => c.username ≠ operator := by
  unfold deleteConsumer
  rw [deleteAll_none]
  cases hfound : s.consumer? (.username operator) with
  | none =>
      simp only
      have hnone := List.find?_eq_none.mp hfound
      refine (List.filter_eq_self.mpr ?_).symm
      intro c hc
      refine decide_eq_true ?_
      intro hname
      exact hnone c hc (decide_eq_true hname)
  | some consumer =>
      simp only
      exact (onlyKeys_modifyKeys (.username operator) s _).others
        fun c _ h => of_decide_eq_true h

/-- Deleting the keys of a consumer leaves the others as they were. -/
theorem deleteApiKey_others (build : KongBuild) (operator : String) (s : KongState) :
    ((deleteApiKey build operator s).consumers.filter fun c => c.username ≠ operator) =
      s.consumers.filter fun c => c.username ≠ operator :=
  (onlyKeys_deleteAll 0 (.username operator) s).others fun _ _ h => of_decide_eq_true h

/-- Consumers are told apart by their ids and by their usernames, and ids to come are new. -/
structure KongState.Sound (s : KongState) : Prop where
  ids : (s.consumers.map Consumer.id).Nodup
  usernames : (s.consumers.map Consumer.username).Nodup
  fresh : forall c, c ∈ s.consumers -> c.id < s.next

theorem username?_eq_none {s : KongState} {name : String} :
    s.consumer? (.username name) = none <-> forall c, c ∈ s.consumers -> c.username ≠ name := by
  unfold KongState.consumer?
  rw [List.find?_eq_none]
  constructor
  · intro h c hc hname
    exact h c hc (decide_eq_true hname)
  · intro h c hc hname
    exact h c hc (of_decide_eq_true hname)

theorem username?_eq_some {s : KongState} {name : String} {c : Consumer}
    (h : s.consumer? (.username name) = some c) : c ∈ s.consumers ∧ c.username = name := by
  have hrefers : (ConsumerRef.username name).refersTo c = true := List.find?_some h
  exact ⟨List.mem_of_find?_eq_some h, of_decide_eq_true hrefers⟩

/-- How `ensure_consumer` ends: its first request fails, or the consumer is there already;
otherwise it is to be created, which fails or is done. -/
theorem ensureConsumer_cases (failing : Option RequestSite) (operator : String)
    (s : KongState) :
    (failing = some .consumerGet ∧
        ensureConsumer failing operator s = (.error (.requestFailed .consumerGet), s)) ∨
      (failing ≠ some .consumerGet ∧ exists c, c ∈ s.consumers ∧ c.username = operator ∧
        ensureConsumer failing operator s = (.ok c.id, s)) ∨
      (failing = some .consumerPost ∧ (forall c, c ∈ s.consumers -> c.username ≠ operator) ∧
        ensureConsumer failing operator s = (.error (.requestFailed .consumerPost), s)) ∨
      (failing ≠ some .consumerGet ∧ failing ≠ some .consumerPost ∧
        (forall c, c ∈ s.consumers -> c.username ≠ operator) ∧
        ensureConsumer failing operator s = (.ok s.next,
          { consumers := s.consumers ++ [⟨s.next, operator, []⟩], next := s.next + 1 })) := by
  unfold ensureConsumer
  rcases Classical.em (failing = some .consumerGet) with hget | hget
  · exact .inl ⟨hget, if_pos hget⟩
  · rw [if_neg hget]
    refine .inr ?_
    cases hfound : s.consumer? (.username operator) with
    | some c =>
        rcases username?_eq_some hfound with ⟨hmem, hname⟩
        exact .inl ⟨hget, c, hmem, hname, rfl⟩
    | none =>
        have hnone := username?_eq_none.mp hfound
        simp only
        unfold createConsumerOrFetchExisting
        rcases Classical.em (failing = some .consumerPost) with hpost | hpost
        · exact .inr (.inl ⟨hpost, hnone, if_pos hpost⟩)
        · rw [if_neg hpost, hfound]
          exact .inr (.inr ⟨hget, hpost, hnone, rfl⟩)

/-- A consumer that is there, by its id. -/
theorem id?_eq_some {s : KongState} (hids : (s.consumers.map Consumer.id).Nodup) {c : Consumer}
    (hc : c ∈ s.consumers) : s.consumer? (.id c.id) = some c := by
  unfold KongState.consumer?
  cases hfound : s.consumers.find? (ConsumerRef.id c.id).refersTo with
  | none => exact absurd (decide_eq_true rfl) (List.find?_eq_none.mp hfound c hc)
  | some other =>
      have hrefers : (ConsumerRef.id c.id).refersTo other = true := List.find?_some hfound
      have hid : other.id = c.id := of_decide_eq_true hrefers
      rw [List.inj_on_of_nodup_map hids (List.mem_of_find?_eq_some hfound) hc hid]

/-- The keys of one consumer replaced. -/
def KongState.withKeys (s : KongState) (consumerId : Nat) (keys : List KeyAuth) : KongState :=
  s.modifyKeys (.id consumerId) fun _ => keys

/-- What does not depend on keys stays. -/
theorem map_withKeys {α : Type} {f : Consumer -> α}
    (hf : forall c keys, f { c with keys := keys } = f c) (s : KongState) (consumerId : Nat)
    (keys : List KeyAuth) : (s.withKeys consumerId keys).consumers.map f = s.consumers.map f := by
  unfold KongState.withKeys KongState.modifyKeys
  rw [List.map_map]
  apply List.map_congr_left
  intro other _
  rw [Function.comp_apply]
  split
  · exact hf other keys
  · rfl

theorem withKeys_ids (s : KongState) (consumerId : Nat) (keys : List KeyAuth) :
    (s.withKeys consumerId keys).consumers.map Consumer.id = s.consumers.map Consumer.id :=
  map_withKeys (fun _ _ => rfl) s consumerId keys

theorem withKeys_usernames (s : KongState) (consumerId : Nat) (keys : List KeyAuth) :
    (s.withKeys consumerId keys).consumers.map Consumer.username =
      s.consumers.map Consumer.username :=
  map_withKeys (fun _ _ => rfl) s consumerId keys

theorem mem_withKeys {s : KongState} {c : Consumer} (hc : c ∈ s.consumers)
    (keys : List KeyAuth) : { c with keys := keys } ∈ (s.withKeys c.id keys).consumers :=
  List.mem_map.mpr ⟨c, hc, if_pos (decide_eq_true rfl)⟩

theorem withKeys_withKeys (s : KongState) (consumerId : Nat) (first second : List KeyAuth) :
    (s.withKeys consumerId first).withKeys consumerId second = s.withKeys consumerId second :=
  modifyKeys_modifyKeys s _ _ _

theorem replaceKeys_none (build : KongBuild) (round : Nat) (apiKey : Option Nat)
    {s : KongState} (hids : (s.consumers.map Consumer.id).Nodup) {c : Consumer}
    (hc : c ∈ s.consumers) :
    replaceKeys build none round (.id c.id) apiKey s =
      (.ok (if build.echoesKey then some (apiKey.getD (s.next + 1)) else none),
        { s.withKeys c.id [⟨s.next, apiKey.getD (s.next + 1)⟩] with next := s.next + 2 }) := by
  have hempty : s.modifyKeys (.id c.id) (without c.keys) =
      s.modifyKeys (.id c.id) fun _ => [] := by
    unfold KongState.modifyKeys
    congr 1
    apply List.map_congr_left
    intro other hother
    cases hrefers : (ConsumerRef.id c.id).refersTo other with
    | false => rfl
    | true =>
        rw [List.inj_on_of_nodup_map hids hother hc (of_decide_eq_true hrefers), without_self]
  have hstill : (s.modifyKeys (.id c.id) fun _ => []).consumer? (.id c.id) =
      some { c with keys := [] } := by
    have hids' : ((s.withKeys c.id []).consumers.map Consumer.id).Nodup := by
      rw [withKeys_ids]
      exact hids
    exact id?_eq_some hids' (mem_withKeys hc [])
  unfold replaceKeys
  rw [deleteAll_none, id?_eq_some hids hc]
  simp only
  rw [hempty]
  unfold postKeyAuth
  rw [if_neg (fun h => by cases h), hstill]
  simp only
  rw [modifyKeys_modifyKeys]
  rfl

/-- With no failing request the consumer is left with one key, which is returned and new. -/
theorem syncKeyAuth_none (build : KongBuild) {s : KongState}
    (hids : (s.consumers.map Consumer.id).Nodup) {c : Consumer} (hc : c ∈ s.consumers) :
    exists id key next, s.next <= key ∧ key < next ∧
      syncKeyAuth build none c.id none s =
        (.ok key, { s.withKeys c.id [⟨id, key⟩] with next := next }) := by
  unfold syncKeyAuth
  rw [replaceKeys_none build 0 none hids hc]
  cases build.echoesKey with
  | true =>
      refine ⟨s.next, s.next + 1, s.next + 2, ?_, ?_, rfl⟩
      · omega
      · omega
  | false =>
      have hids' : ((s.withKeys c.id [⟨s.next, s.next + 1⟩]).consumers.map
          Consumer.id).Nodup := by
        rw [withKeys_ids]
        exact hids
      have hagain := @replaceKeys_none build 1 (some (s.next + 2))
        { s.withKeys c.id [⟨s.next, s.next + 1⟩] with next := s.next + 3 } hids' _
        (mem_withKeys hc [⟨s.next, s.next + 1⟩])
      refine ⟨s.next + 3, s.next + 2, s.next + 5, ?_, ?_, ?_⟩
      · omega
      · omega
      · simp only [Bool.false_eq_true, if_false, Option.getD_none]
        simp only [Option.getD_some] at hagain
        rw [hagain]
        have hreturned : (if build.echoesKey = true then some (s.next + 2) else none).getD
            (s.next + 2) = s.next + 2 := by
          split
          · rfl
          · rfl
        simp only [hreturned]
        have hconsumers := congrArg KongState.consumers
          (withKeys_withKeys s c.id [⟨s.next, s.next + 1⟩] [⟨s.next + 3, s.next + 2⟩])
        exact congrArg (fun consumers => (Except.ok (s.next + 2),
          (⟨consumers, s.next + 5⟩ : KongState))) hconsumers

end Operators
end KeepGateway
