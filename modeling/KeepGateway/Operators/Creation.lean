import KeepGateway.Operators.ProvisioningEffects

/-!
# Creation of operators

What `provision_operator` does when every request succeeds.
-/

namespace KeepGateway
namespace Operators

/-!
## Kong
-/

theorem KongState.Sound.withKeys {s : KongState} (h : s.Sound) {consumerId next : Nat}
    {keys : List KeyAuth} (hnext : s.next <= next) :
    KongState.Sound { s.withKeys consumerId keys with next := next } where
  ids := by
    simp only [withKeys_ids]
    exact h.ids
  usernames := by
    simp only [withKeys_usernames]
    exact h.usernames
  fresh := by
    intro c hc
    have hid : c.id ∈ s.consumers.map Consumer.id := by
      rw [← withKeys_ids s consumerId keys]
      exact List.mem_map_of_mem hc
    rcases List.mem_map.mp hid with ⟨other, hother, heq⟩
    have hfresh := h.fresh other hother
    simp only
    omega

theorem KongState.Sound.of_others {s t : KongState} {operator : String} (h : s.Sound)
    (hconsumers : t.consumers = s.others operator) (hnext : s.next <= t.next) : t.Sound where
  ids := by
    rw [hconsumers]
    exact h.ids.sublist (List.filter_sublist.map _)
  usernames := by
    rw [hconsumers]
    exact h.usernames.sublist (List.filter_sublist.map _)
  fresh := by
    intro c hc
    rw [hconsumers] at hc
    exact Nat.lt_of_lt_of_le (h.fresh c (List.mem_filter.mp hc).1) hnext

theorem mem_others {s : KongState} {operator : String} {c : Consumer} :
    c ∈ s.others operator <-> c ∈ s.consumers ∧ c.username ≠ operator := by
  unfold KongState.others
  rw [List.mem_filter, decide_eq_true_eq]

theorem others_others (s t : KongState) (operator : String)
    (h : t.consumers = s.others operator) : t.others operator = s.others operator := by
  unfold KongState.others at *
  rw [h, List.filter_filter]
  simp

/-- Consumers under other names are found as before. -/
theorem consumer?_of_others {s t : KongState} {operator name : String}
    (h : t.others operator = s.others operator) (hname : name ≠ operator) :
    t.consumer? (.username name) = s.consumer? (.username name) := by
  have hfind : forall u : KongState, u.consumer? (.username name) =
      (u.others operator).find? (ConsumerRef.username name).refersTo := by
    intro u
    unfold KongState.consumer? KongState.others
    rw [List.find?_filter]
    congr 1
    funext c
    cases hrefers : (ConsumerRef.username name).refersTo c with
    | false => simp
    | true =>
        have heq : c.username = name := of_decide_eq_true hrefers
        simp [heq, hname]
  rw [hfind, hfind, h]

/-- The consumer of a name is there, and what it has is the key. -/
structure KeyProvisioned (operator : String) (key : Nat) (s t : KongState) : Prop where
  sound : t.Sound
  new : s.next <= key
  used : key < t.next
  others : t.others operator = s.others operator
  consumer : exists c, c ∈ t.consumers ∧ c.username = operator ∧ exists id, c.keys = [⟨id, key⟩]

theorem username?_of_mem {s : KongState} (h : s.Sound) {c : Consumer} (hc : c ∈ s.consumers) :
    s.consumer? (.username c.username) = some c := by
  cases hfound : s.consumer? (.username c.username) with
  | none => exact absurd rfl (username?_eq_none.mp hfound c hc)
  | some other =>
      rcases username?_eq_some hfound with ⟨hmem, hname⟩
      rw [List.inj_on_of_nodup_map h.usernames hmem hc hname]

section Calls

variable {build : KongBuild} {config : GrafanaConfig}

theorem syncKeyAuth_provisioned {s : KongState} (h : s.Sound) {c : Consumer}
    (hc : c ∈ s.consumers) :
    exists key t, syncKeyAuth build none c.id none s = (.ok key, t) ∧
      KeyProvisioned c.username key s t := by
  rcases syncKeyAuth_none build h.ids hc with ⟨id, key, next, hnew, hused, heq⟩
  refine ⟨key, _, heq, h.withKeys (Nat.le_of_lt (Nat.lt_of_le_of_lt hnew hused)), hnew, hused,
    ?_, _, mem_withKeys hc _, rfl, id, rfl⟩
  refine (onlyKeys_modifyKeys (.id c.id) s fun _ => [⟨id, key⟩]).others ?_
  intro other hother hrefers
  rw [List.inj_on_of_nodup_map h.ids hother hc (of_decide_eq_true hrefers)]

/-- The consumer is found or created, and given its key. -/
theorem kong_provisioned {s : KongState} (h : s.Sound) (operator : String) :
    exists consumerId u key t, ensureConsumer none operator s = (.ok consumerId, u) ∧
      syncKeyAuth build none consumerId none u = (.ok key, t) ∧
      KeyProvisioned operator key s t := by
  rcases ensureConsumer_cases none operator s with
    ⟨hsite, _⟩ | ⟨_, c, hc, hname, heq⟩ | ⟨hsite, _⟩ | ⟨_, _, hunknown, heq⟩
  · exact absurd hsite (none_ne_site _)
  · rcases @syncKeyAuth_provisioned build _ h _ hc with ⟨key, t, hsync, hkey⟩
    rw [hname] at hkey
    exact ⟨c.id, s, key, t, heq, hsync, hkey⟩
  · exact absurd hsite (none_ne_site _)
  · rcases @syncKeyAuth_provisioned build _ (h.created hunknown) _
      (List.mem_append_right _ (List.mem_singleton.mpr rfl)) with ⟨key, t, hsync, hkey⟩
    refine ⟨s.next, _, key, t, heq, hsync, hkey.sound, ?_, hkey.used, ?_, hkey.consumer⟩
    · exact Nat.le_of_succ_le hkey.new
    · exact hkey.others.trans (others_created s operator s.next (s.next + 1))

theorem deleteAll_none_next (round : Nat) (ref : ConsumerRef) (s : KongState) :
    (deleteAllConsumerKeyAuths build none round ref s).2.next = s.next := by
  rw [deleteAll_none]
  split
  · rfl
  · rfl

theorem deleteConsumer_next (operator : String) (s : KongState) :
    (deleteConsumer build operator s).next = s.next := by
  have hkeys := @deleteAll_none_next build 0 (.username operator) s
  unfold deleteConsumer
  split
  · rename_i e t heq
    rw [heq] at hkeys
    exact hkeys
  · rename_i t heq
    rw [heq] at hkeys
    exact hkeys

/-!
## Calls
-/

def subRoutes (route : Route) : List SubPolicy := route.routes.getD []

def newSubPolicies (config : GrafanaConfig) (operator : String) (policyRoutes : Route) :
    List SubPolicy :=
  subRoutes policyRoutes ++ [buildSubPolicyData config (contactPointName operator)]

/-- A row, its contact point, and a sub-policy below each Send-Alert route, which are all given
the sub-routes of one. -/
def World.withOperator (config : GrafanaConfig) (w : World) (row : Operator) (kong : KongState)
    (policyRoutes : Route) : World where
  kong := kong
  operators := w.operators ++ [row]
  nextOperator := w.nextOperator + 1
  grafana :=
    { contactPoints := contactPointsWith config row.name row.apikey w.grafana.contactPoints
      policyTree := editPolicyTree (newSubPolicies config row.name policyRoutes)
        w.grafana.policyTree }

/-- A name or a group that is taken: the consumer of the name is deleted. -/
theorem provisionOperator_taken (build : KongBuild) (config : GrafanaConfig) {w : World}
    (hw : w.Sound) {operatorName mailGroup : String} (tenantId : String)
    (htaken : Taken operatorName mailGroup w.operators) :
    exists e kong, kong.Sound ∧ w.kong.next <= kong.next ∧
      kong.consumers = w.kong.others operatorName ∧
      provisionOperator build config none operatorName mailGroup tenantId w =
        (.error e, { w with kong := kong }) := by
  rcases @kong_provisioned build _ hw.kong operatorName with
    ⟨consumerId, u, key, t, hensure, hsync, hkey⟩
  have hconflicts : conflicts (newRow operatorName mailGroup tenantId key
      { w with kong := t }) w.operators = true := by
    refine (conflicts_iff ?_).mpr htaken
    intro o ho
    exact Nat.ne_of_lt (Nat.lt_of_lt_of_le (hw.keys o ho) hkey.new)
  have hnext : w.kong.next <=
      (deleteConsumer build operatorName (deleteApiKey build operatorName t)).next := by
    rw [deleteConsumer_next]
    unfold deleteApiKey
    rw [deleteAll_none_next]
    exact Nat.le_of_lt (Nat.lt_of_le_of_lt hkey.new hkey.used)
  have hconsumers := (@rollback_consumers build operatorName t).trans hkey.others
  rw [provisionOperator_eq, hensure]
  simp only
  unfold afterConsumer
  simp only [hsync]
  unfold afterKey
  rcases createRow_cases none operatorName mailGroup tenantId key { w with kong := t } with
    ⟨e, hrow, _⟩ | ⟨hrefresh, _⟩ | ⟨_, hfree, _⟩
  · rw [hrow]
    exact ⟨e, _, hw.kong.of_others hconsumers hnext, hnext, hconsumers, rfl⟩
  · exact absurd hrefresh (none_ne_site _)
  · rw [hconflicts] at hfree
    exact Bool.noConfusion hfree

/-- A new name and a new group: a key, a row, a contact point and sub-policies. -/
theorem provisionOperator_free (build : KongBuild) (config : GrafanaConfig) {w : World}
    (hw : w.Sound) {operatorName mailGroup : String} (tenantId : String)
    (hfree : ¬ Taken operatorName mailGroup w.operators) {policyRoutes : Route}
    (hnode : findPolicyNode w.grafana.policyTree = some policyRoutes) :
    exists key kong, KeyProvisioned operatorName key w.kong kong ∧
      (provisionOperator build config none operatorName mailGroup tenantId w).2 =
        w.withOperator config (newRow operatorName mailGroup tenantId key w) kong
          policyRoutes := by
  rcases @kong_provisioned build _ hw.kong operatorName with
    ⟨consumerId, u, key, t, hensure, hsync, hkey⟩
  have hconflicts : conflicts (newRow operatorName mailGroup tenantId key
      { w with kong := t }) w.operators = false := by
    refine eq_false_of_ne_true ?_
    intro hconflict
    refine hfree ((conflicts_iff ?_).mp hconflict)
    intro o ho
    exact Nat.ne_of_lt (Nat.lt_of_lt_of_le (hw.keys o ho) hkey.new)
  refine ⟨key, t, hkey, ?_⟩
  rw [provisionOperator_eq, hensure]
  simp only
  unfold afterConsumer
  simp only [hsync]
  unfold afterKey
  rcases createRow_cases none operatorName mailGroup tenantId key { w with kong := t } with
    ⟨e, hrow, hcause⟩ | ⟨hrefresh, _⟩ | ⟨_, _, hrow⟩
  · rcases hcause with hcommit | hconflict
    · exact absurd hcommit (none_ne_site _)
    · rw [hconflicts] at hconflict
      exact Bool.noConfusion hconflict
  · exact absurd hrefresh (none_ne_site _)
  · rw [hrow]
    unfold ensureGrafanaConnections provisionSubPolicy
    simp only [World.addRow, provisionContactPoint_none, if_neg (none_ne_site _), hnode]
    rfl

end Calls

end Operators
end KeepGateway
