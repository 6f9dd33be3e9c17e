import KeepGateway.Operators.ProvisioningEffects

/-!
# Failed provisionings

`provision_operator` takes back the steps it has completed when one fails.  It takes them
back by name: whatever was found under the name of the operator goes as well.
-/

namespace KeepGateway
namespace Operators

/-- Consumers, operators and Grafana are as they were. -/
structure AsItWas (w w' : World) : Prop where
  consumers : w'.kong.consumers = w.kong.consumers
  operators : w'.operators = w.operators
  grafana : w'.grafana = w.grafana

/-- Requests whose failure leaves something that is not taken back: the row that was
committed, or the contact point. -/
def RequestSite.leavesSomething : RequestSite -> Bool
  | refresh => true
  | policiesGet => true
  | policiesPut => true
  | _ => false

theorem leavesSomething_of_ofKeys {failing : Option RequestSite}
    (h : failing.any RequestSite.ofKeys = true) :
    failing.any RequestSite.leavesSomething = false := by
  cases failing with
  | none => rfl
  | some site =>
      cases site with
      | keysList round page => rfl
      | keyDelete round keyId => rfl
      | keyPost round => rfl
      | _ => exact Bool.noConfusion h

theorem leavesSomething_of_ofContactPoints {failing : Option RequestSite}
    (h : failing.any RequestSite.ofContactPoints = true) :
    failing.any RequestSite.leavesSomething = false := by
  cases failing with
  | none => rfl
  | some site =>
      cases site with
      | contactPointsGet => rfl
      | contactPointPut => rfl
      | contactPointPost => rfl
      | _ => exact Bool.noConfusion h

/-- What a provisioning that fails leaves. -/
inductive Aftermath (config : GrafanaConfig) (failing : Option RequestSite)
    (operatorName mailGroup : String) (w w' : World) : Prop where
  /-- There was no consumer to take back. -/
  | nothingDone (hstate : w' = w)
      (hsite : failing = some .consumerGet ∨
        (failing = some .consumerPost ∧
          forall c, c ∈ w.kong.consumers -> c.username ≠ operatorName))
  | consumerDeleted (hsite : failing ≠ some .consumerGet)
      (hconsumers : w'.kong.consumers = w.kong.others operatorName)
      (hoperators : w'.operators = w.operators) (hgrafana : w'.grafana = w.grafana)
      (hcause : Taken operatorName mailGroup w.operators ∨
        failing.any RequestSite.leavesSomething = false)
  | rowLeft (hfree : ¬ Taken operatorName mailGroup w.operators)
      (hsite : failing = some .refresh) (hoperators : w'.operators ≠ w.operators)
  | contactPointLeft (hfree : ¬ Taken operatorName mailGroup w.operators)
      (hsite : failing = some .policiesGet ∨ failing = some .policiesPut)
      (hconsumers : w'.kong.consumers = w.kong.others operatorName)
      (hoperators : w'.operators = w.operators)
      (hgrafana : exists apiKey, w'.grafana = { w.grafana with
        contactPoints := contactPointsWith config operatorName apiKey w.grafana.contactPoints })

/-- The new row is the one that goes. -/
theorem eraseP_newRow {operators : List Operator} {row : Operator}
    (h : conflicts row operators = false) :
    (operators ++ [row]).eraseP (fun o => o.name = row.name) = operators := by
  have hother : forall o, o ∈ operators -> ¬ decide (o.name = row.name) = true := by
    intro o ho hname
    have hconflict := List.any_eq_false.mp h o ho
    rw [hname, Bool.true_or, Bool.true_or] at hconflict
    exact hconflict rfl
  rw [List.eraseP_append_right _ hother]
  simp

section Failure

variable {build : KongBuild} {config : GrafanaConfig} {failing : Option RequestSite}
  {operatorName mailGroup tenantId : String} {w w' : World} {e : ProvisionError}

/-- A failure after the key is there. -/
theorem afterKey_aftermath {kong : KongState} {provisionedKey : Nat}
    (hget : failing ≠ some .consumerGet)
    (hothers : kong.others operatorName = w.kong.others operatorName)
    (hconflicts : failing.any RequestSite.ofKeys = true ∨
      (conflicts (newRow operatorName mailGroup tenantId provisionedKey w) w.operators = true <->
        Taken operatorName mailGroup w.operators))
    (h : afterKey build config failing operatorName mailGroup tenantId provisionedKey
      { w with kong := kong } = (.error e, w'))
    (he : e ≠ .sendAlertMissing) :
    Aftermath config failing operatorName mailGroup w w' := by
  have hconsumers := (@rollback_consumers build operatorName kong).trans hothers
  -- a row that was stored is free of conflicts, also when its key is not known to be new
  have hfree : conflicts (newRow operatorName mailGroup tenantId provisionedKey w)
      w.operators = false -> failing.any RequestSite.leavesSomething = true ->
      ¬ Taken operatorName mailGroup w.operators := by
    intro hnone hleaves htaken
    rcases hconflicts with hof | hiff
    · rw [leavesSomething_of_ofKeys hof] at hleaves
      exact Bool.noConfusion hleaves
    · rw [hiff.mpr htaken] at hnone
      exact Bool.noConfusion hnone
  unfold afterKey at h
  rcases createRow_cases failing operatorName mailGroup tenantId provisionedKey
      { w with kong := kong } with
    ⟨e', hrow, hcause⟩ | ⟨hrefresh, hnone, hrow⟩ | ⟨hrefresh, hnone, hrow⟩
  · rw [hrow] at h
    cases h
    refine .consumerDeleted hget hconsumers rfl rfl ?_
    rcases hcause with hcommit | hconflict
    · rw [hcommit]
      exact .inr rfl
    · rcases hconflicts with hof | hiff
      · exact .inr (leavesSomething_of_ofKeys hof)
      · exact .inl (hiff.mp hconflict)
  · rw [hrow] at h
    cases h
    refine .rowLeft (hfree hnone ?_) hrefresh ?_
    · rw [hrefresh]
      rfl
    · intro heq
      exact List.cons_ne_nil _ _ (List.append_right_eq_self.mp heq)
  · rw [hrow] at h
    unfold ensureGrafanaConnections at h
    rcases provisionContactPoint_cases config failing operatorName provisionedKey w.grafana with
      ⟨hsite, e', hpoint⟩ | hpoint
    · simp only [World.addRow, hpoint] at h
      cases h
      exact .consumerDeleted hget hconsumers (eraseP_newRow hnone) rfl
        (.inr (leavesSomething_of_ofContactPoints hsite))
    · simp only [World.addRow, hpoint] at h
      split at h
      · rename_i e' grafana hpolicy
        cases h
        rcases provisionSubPolicy_error config hpolicy with ⟨hsame, hmissing | hsite⟩
        · exact absurd hmissing he
        · refine .contactPointLeft (hfree hnone ?_) hsite hconsumers (eraseP_newRow hnone)
            ⟨provisionedKey, hsame⟩
          rcases hsite with hsite | hsite
          · rw [hsite]
            rfl
          · rw [hsite]
            rfl
      · cases h

/-- A failure after the consumer is there. -/
theorem afterConsumer_aftermath {kong : KongState} (hsound : kong.Sound)
    (hothers : kong.others operatorName = w.kong.others operatorName)
    (hkeys : forall o, o ∈ w.operators -> o.apikey < kong.next)
    {c : Consumer} (hc : c ∈ kong.consumers) (hname : c.username = operatorName)
    (hget : failing ≠ some .consumerGet)
    (h : afterConsumer build config failing operatorName mailGroup tenantId c.id
      { w with kong := kong } = (.error e, w'))
    (he : e ≠ .sendAlertMissing) :
    Aftermath config failing operatorName mailGroup w w' := by
  -- the key is new unless a request for keys fails
  have hsync : failing.any RequestSite.ofKeys = true ∨
      exists key t, kong.next <= key ∧
        syncKeyAuth build failing c.id none kong = (.ok key, t) := by
    cases hof : failing.any RequestSite.ofKeys with
    | true => exact .inl rfl
    | false =>
        rcases syncKeyAuth_none build hsound.ids hc with ⟨id, key, next, hle, _, heq⟩
        exact .inr ⟨key, _, hle, (syncKeyAuth_unfailing hof _ _ _).trans heq⟩
  have hsame : (syncKeyAuth build failing c.id none kong).2.others operatorName =
      w.kong.others operatorName := by
    refine Eq.trans ((onlyKeys_syncKeyAuth c.id none kong).others ?_) hothers
    intro other hother hrefers
    have hid : other.id = c.id := of_decide_eq_true hrefers
    rw [List.inj_on_of_nodup_map hsound.ids hother hc hid, hname]
  unfold afterConsumer at h
  cases hkey : syncKeyAuth build failing c.id none kong with
  | mk result synced =>
      rw [hkey] at hsame
      simp only [hkey] at h
      cases result with
      | error e' =>
          cases h
          rcases hsync with hof | ⟨key, t, _, heq⟩
          · exact .consumerDeleted hget ((deleteConsumer_consumers build _ _).trans hsame)
              rfl rfl (.inr (leavesSomething_of_ofKeys hof))
          · rw [hkey] at heq
            cases heq
      | ok provisionedKey =>
          refine afterKey_aftermath hget hsame ?_ h he
          rcases hsync with hof | ⟨key, t, hle, heq⟩
          · exact .inl hof
          · rw [hkey] at heq
            cases heq
            refine .inr (conflicts_iff ?_)
            intro o ho
            exact Nat.ne_of_lt (Nat.lt_of_lt_of_le (hkeys o ho) hle)

/-- A failed request or a conflict leaves the state in one of four ways. -/
theorem provisionOperator_aftermath (hw : w.Sound)
    (h : provisionOperator build config failing operatorName mailGroup tenantId w =
      (.error e, w'))
    (he : e ≠ .sendAlertMissing) :
    Aftermath config failing operatorName mailGroup w w' := by
  rw [provisionOperator_eq] at h
  rcases ensureConsumer_cases failing operatorName w.kong with
    ⟨hsite, heq⟩ | ⟨hget, c, hc, hname, heq⟩ | ⟨hsite, hunknown, heq⟩ |
      ⟨hget, hpost, hunknown, heq⟩
  · rw [heq] at h
    cases h
    exact .nothingDone rfl (.inl hsite)
  · rw [heq] at h
    exact afterConsumer_aftermath hw.kong rfl hw.keys hc hname hget h he
  · rw [heq] at h
    cases h
    exact .nothingDone rfl (.inr ⟨hsite, hunknown⟩)
  · rw [heq] at h
    exact afterConsumer_aftermath (hw.kong.created hunknown)
      (others_created w.kong operatorName w.kong.next (w.kong.next + 1))
      (fun o ho => Nat.lt_succ_of_lt (hw.keys o ho))
      (List.mem_append_right _ (List.mem_singleton.mpr rfl)) rfl hget h he

end Failure

/-!
## When nothing is left behind
-/

/-- The first request fails, or no consumer is known by the name and the name or the group is
taken, or what fails is a request that is made good. -/
def TakesAllBack (config : GrafanaConfig) (failing : Option RequestSite)
    (operatorName mailGroup : String) (w : World) : Prop :=
  failing = some .consumerGet ∨
    ((forall c, c ∈ w.kong.consumers -> c.username ≠ operatorName) ∧
      (Taken operatorName mailGroup w.operators ∨
        (failing ≠ some .refresh ∧
          (failing = some .policiesGet ∨ failing = some .policiesPut ->
            ContactPointStands config operatorName w.grafana.contactPoints))))

theorem Aftermath.restored_iff {config : GrafanaConfig} {failing : Option RequestSite}
    {operatorName mailGroup : String} {w w' : World}
    (h : Aftermath config failing operatorName mailGroup w w') :
    AsItWas w w' <-> TakesAllBack config failing operatorName mailGroup w := by
  -- the consumers are the same again if none had the name
  have hunknown : AsItWas w w' -> w'.kong.consumers = w.kong.others operatorName ->
      forall c, c ∈ w.kong.consumers -> c.username ≠ operatorName := by
    intro hsame hothers c hc hname
    exact others_ne_self hc hname (hothers.symm.trans hsame.consumers)
  cases h with
  | nothingDone hstate hsite =>
      have hback : TakesAllBack config failing operatorName mailGroup w := by
        rcases hsite with hsite | ⟨hsite, hunknown⟩
        · exact .inl hsite
        · refine .inr ⟨hunknown, .inr ?_⟩
          rw [hsite]
          simp
      rw [hstate]
      exact ⟨fun _ => hback, fun _ => ⟨rfl, rfl, rfl⟩⟩
  | consumerDeleted hsite hconsumers hoperators hgrafana hcause =>
      constructor
      · intro hsame
        refine .inr ⟨hunknown hsame hconsumers, ?_⟩
        rcases hcause with htaken | hnothing
        · exact .inl htaken
        · refine .inr ⟨?_, ?_⟩
          · intro hrefresh
            rw [hrefresh] at hnothing
            cases hnothing
          · intro hpolicies
            rcases hpolicies with hpolicies | hpolicies
            · rw [hpolicies] at hnothing
              cases hnothing
            · rw [hpolicies] at hnothing
              cases hnothing
      · intro hback
        rcases hback with hget | ⟨hunknown, _⟩
        · exact absurd hget hsite
        · exact ⟨hconsumers.trans (others_eq_self hunknown), hoperators, hgrafana⟩
  | rowLeft hfree hsite hoperators =>
      constructor
      · intro hsame
        exact absurd hsame.operators hoperators
      · intro hback
        rcases hback with hget | ⟨_, htaken | ⟨hrefresh, _⟩⟩
        · rw [hsite] at hget
          cases hget
        · exact absurd htaken hfree
        · exact absurd hsite hrefresh
  | contactPointLeft hfree hsite hconsumers hoperators hgrafana =>
      rcases hgrafana with ⟨apiKey, hgrafana⟩
      constructor
      · intro hsame
        refine .inr ⟨hunknown hsame hconsumers, .inr ⟨?_, ?_⟩⟩
        · intro hrefresh
          rw [hrefresh] at hsite
          rcases hsite with hsite | hsite
          · cases hsite
          · cases hsite
        · intro _
          apply (contactPointsWith_eq_self_iff config operatorName apiKey _).mp
          exact congrArg GrafanaState.contactPoints (hgrafana.symm.trans hsame.grafana)
      · intro hback
        rcases hback with hget | ⟨hunknown, htaken | ⟨_, hstands⟩⟩
        · rw [hget] at hsite
          rcases hsite with hsite | hsite
          · cases hsite
          · cases hsite
        · exact absurd htaken hfree
        · refine ⟨hconsumers.trans (others_eq_self hunknown), hoperators, ?_⟩
          rw [hgrafana, (contactPointsWith_eq_self_iff config operatorName apiKey _).mpr
            (hstands hsite)]

/-- A failed request or a conflict leaves everything as it was exactly when its first request
failed, or no consumer had the name and there was a conflict or a request failed that leaves
nothing. -/
theorem asItWas_iff (build : KongBuild) (config : GrafanaConfig)
    (failing : Option RequestSite) (operatorName mailGroup tenantId : String) {w w' : World}
    (hw : w.Sound) {e : ProvisionError}
    (h : provisionOperator build config failing operatorName mailGroup tenantId w =
      (.error e, w'))
    (he : e ≠ .sendAlertMissing) :
    AsItWas w w' <-> TakesAllBack config failing operatorName mailGroup w :=
  (provisionOperator_aftermath hw h he).restored_iff

/-- One operator with its consumer, its key and its contact point. -/
def oneOperator : World where
  kong := { consumers := [⟨0, "payments", [⟨1, 2⟩]⟩], next := 3 }
  operators := [⟨0, "payments", "payments-mails", "tenant-a", 2⟩]
  nextOperator := 1
  grafana :=
    { contactPoints := [buildContactPointPayload namedContactPoints "payments" 2]
      policyTree :=
        { routes := some [⟨some [["Send-Alert", "=", "true"]],
            some [buildSubPolicyData namedContactPoints (contactPointName "payments")], ""⟩]
          rest := "" } }

theorem oneOperator_sound : oneOperator.Sound where
  kong := ⟨List.nodup_singleton _, List.nodup_singleton _, by decide⟩
  keys := by decide

/-- A second operator under the name: the request is refused, and the key of the first
operator is gone. -/
theorem nameTaken_deletesConsumer :
    exists w', provisionOperator onePageKong namedContactPoints none "payments" "cards-mails"
        "tenant-b" oneOperator = (.error (.operatorNameTaken "payments"), w') ∧
      w'.operators = oneOperator.operators ∧ w'.kong.consumers = [] ∧
      ¬ AsItWas oneOperator w' := by
  refine ⟨_, rfl, rfl, rfl, ?_⟩
  intro h
  exact List.cons_ne_nil _ _ h.consumers.symm

/-- Another operator, whose row cannot be committed. -/
theorem commitFails_takesAllBack :
    AsItWas oneOperator (provisionOperator onePageKong namedContactPoints (some .commit)
        "cards" "cards-mails" "tenant-b" oneOperator).2 <->
      TakesAllBack namedContactPoints (some .commit) "cards" "cards-mails" oneOperator :=
  asItWas_iff onePageKong namedContactPoints (some .commit) "cards" "cards-mails" "tenant-b"
    oneOperator_sound (e := .requestFailed .commit) rfl (by simp)

end Operators
end KeepGateway
