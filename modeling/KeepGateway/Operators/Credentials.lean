import KeepGateway.Lib.Run
import KeepGateway.Operators.Creation

/-!
# The three copies of a credential

The key of an operator is kept in its row, in Kong and in its contact point.
-/

namespace KeepGateway
namespace Operators

open Run

/-!
## Routes
-/

def topRoutes (policyTree : PolicyTree) : List Route := policyTree.routes.getD []

/-- What is done to a top-level route. -/
def withSubPolicies (newRoutesList : List SubPolicy) (route : Route) : Route :=
  if isSendAlert route then { route with routes := some newRoutesList } else route

theorem topRoutes_editPolicyTree (newRoutesList : List SubPolicy) (policyTree : PolicyTree) :
    topRoutes (editPolicyTree newRoutesList policyTree) =
      (topRoutes policyTree).map (withSubPolicies newRoutesList) := by
  unfold topRoutes editPolicyTree
  cases policyTree.routes with
  | none => rfl
  | some routes => rfl

theorem withSubPolicies_sendAlert {newRoutesList : List SubPolicy} {route : Route}
    (h : isSendAlert route = true) :
    withSubPolicies newRoutesList route = { route with routes := some newRoutesList } :=
  if_pos h

theorem withSubPolicies_other {newRoutesList : List SubPolicy} {route : Route}
    (h : isSendAlert route = false) : withSubPolicies newRoutesList route = route :=
  if_neg (ne_true_of_eq_false h)

theorem isSendAlert_withSubPolicies (newRoutesList : List SubPolicy) (route : Route) :
    isSendAlert (withSubPolicies newRoutesList route) = isSendAlert route := by
  unfold withSubPolicies
  split
  · rfl
  · rfl

theorem findPolicyNode_editPolicyTree (newRoutesList : List SubPolicy)
    (policyTree : PolicyTree) :
    findPolicyNode (editPolicyTree newRoutesList policyTree) =
      (findPolicyNode policyTree).map (withSubPolicies newRoutesList) := by
  have hroutes := topRoutes_editPolicyTree newRoutesList policyTree
  unfold topRoutes at hroutes
  unfold findPolicyNode
  rw [hroutes, List.find?_map]
  congr 2
  funext route
  exact isSendAlert_withSubPolicies newRoutesList route

theorem contactPointName_inj {n m : String} (h : contactPointName n = contactPointName m) :
    n = m := by
  unfold contactPointName at h
  exact (String.append_right_inj "Appchi - ").mp h

/-- Routes with a Send-Alert route are made of what precedes the first, it, and the rest. -/
theorem exists_first {policyTree : PolicyTree} {policyRoutes : Route}
    (h : findPolicyNode policyTree = some policyRoutes) :
    isSendAlert policyRoutes = true ∧ exists before after,
      topRoutes policyTree = before ++ policyRoutes :: after ∧
        forall route, route ∈ before -> isSendAlert route = false := by
  rcases List.find?_eq_some_iff_append.mp h with ⟨hsend, before, after, hroutes, hbefore⟩
  refine ⟨hsend, before, after, hroutes, ?_⟩
  intro route hroute
  simpa using hbefore route hroute

/-- What precedes the first Send-Alert route is not touched, and after it all of them are. -/
theorem map_first {before after : List Route} {policyRoutes : Route}
    {newRoutesList : List SubPolicy} (hsend : isSendAlert policyRoutes = true)
    (hbefore : forall route, route ∈ before -> isSendAlert route = false) :
    (before ++ policyRoutes :: after).map (withSubPolicies newRoutesList) =
      before ++ { policyRoutes with routes := some newRoutesList } ::
        after.map (withSubPolicies newRoutesList) := by
  have hsame : before.map (withSubPolicies newRoutesList) = before := by
    conv_rhs => rw [← List.map_id before]
    exact List.map_congr_left fun route hroute => withSubPolicies_other (hbefore route hroute)
  rw [List.map_append, List.map_cons, hsame, withSubPolicies_sendAlert hsend]

theorem countP_first {before after : List Route} {policyRoutes : Route}
    (hsend : isSendAlert policyRoutes = true)
    (hbefore : forall route, route ∈ before -> isSendAlert route = false) :
    (before ++ policyRoutes :: after).countP isSendAlert = 1 <->
      forall route, route ∈ after -> isSendAlert route = false := by
  have hzero : before.countP isSendAlert = 0 :=
    List.countP_eq_zero.mpr fun route hroute => ne_true_of_eq_false (hbefore route hroute)
  rw [List.countP_append, hzero, List.countP_cons_of_pos hsend]
  constructor
  · intro hone route hroute
    have hrest : after.countP isSendAlert = 0 := by omega
    exact eq_false_of_ne_true (List.countP_eq_zero.mp hrest route hroute)
  · intro hall
    have hrest : after.countP isSendAlert = 0 :=
      List.countP_eq_zero.mpr fun route hroute => ne_true_of_eq_false (hall route hroute)
    omega

theorem eraseP_first {before after : List Route} {policyRoutes : Route}
    (hsend : isSendAlert policyRoutes = true)
    (hbefore : forall route, route ∈ before -> isSendAlert route = false) :
    (before ++ policyRoutes :: after).eraseP isSendAlert = before ++ after := by
  have hnot : forall route, route ∈ before -> ¬ isSendAlert route = true :=
    fun route hroute => ne_true_of_eq_false (hbefore route hroute)
  rw [List.eraseP_append_right _ hnot, List.eraseP_cons_of_pos hsend]

/-!
## Agreement
-/

/-- For every operator the credential of its row, of Kong and of its contact point is one; what
has no operator is not there, and routes other than the first Send-Alert route have the
sub-routes they had at the start. -/
structure Agrees (config : GrafanaConfig) (start w : World) : Prop where
  key : forall o, o ∈ w.operators -> exists c, w.kong.consumer? (.username o.name) = some c ∧
    exists id, c.keys = [⟨id, o.apikey⟩]
  contactPoint : forall o, o ∈ w.operators -> exists cp settings,
    findContactPointByUid w.grafana.contactPoints (config.contactPointUid o.name) = some cp ∧
      cp.settings = some settings ∧ settings.authorizationCredentials = some o.apikey
  subPolicy : forall o, o ∈ w.operators -> exists policyRoutes,
    findPolicyNode w.grafana.policyTree = some policyRoutes ∧
      (subRoutes policyRoutes).countP (fun sub => sub.receiver = contactPointName o.name) = 1
  keyOwner : forall c, c ∈ w.kong.consumers -> c.keys ≠ [] ->
    exists o, o ∈ w.operators ∧ o.name = c.username
  contactPointOwner : forall cp, cp ∈ w.grafana.contactPoints ->
    exists o, o ∈ w.operators ∧ config.contactPointUid o.name = cp.uid
  subPolicyOwner : forall route, route ∈ topRoutes w.grafana.policyTree ->
    forall sub, sub ∈ subRoutes route -> forall name, sub.receiver = contactPointName name ->
      exists o, o ∈ w.operators ∧ o.name = name
  others : ((topRoutes w.grafana.policyTree).eraseP isSendAlert).map subRoutes =
    ((topRoutes start.grafana.policyTree).eraseP isSendAlert).map subRoutes

/-- No operators, keys, contact points or sub-policies, and a Send-Alert route. -/
structure Start (w : World) : Prop where
  kong : w.kong.Sound
  keys : forall c, c ∈ w.kong.consumers -> c.keys = []
  operators : w.operators = []
  contactPoints : w.grafana.contactPoints = []
  subPolicies : forall route, route ∈ topRoutes w.grafana.policyTree ->
    forall sub, sub ∈ subRoutes route -> forall name, sub.receiver ≠ contactPointName name
  sendAlert : exists policyRoutes, findPolicyNode w.grafana.policyTree = some policyRoutes

/-- What every call keeps, also one after which the copies differ. -/
structure Consistent (w : World) : Prop where
  sound : w.Sound
  names : (w.operators.map Operator.name).Nodup
  sendAlert : exists policyRoutes, findPolicyNode w.grafana.policyTree = some policyRoutes

theorem Start.agrees {config : GrafanaConfig} {w : World} (h : Start w) :
    Agrees config w w where
  key := by
    intro o ho
    rw [h.operators] at ho
    exact absurd ho List.not_mem_nil
  contactPoint := by
    intro o ho
    rw [h.operators] at ho
    exact absurd ho List.not_mem_nil
  subPolicy := by
    intro o ho
    rw [h.operators] at ho
    exact absurd ho List.not_mem_nil
  keyOwner := fun c hc hkeys => absurd (h.keys c hc) hkeys
  contactPointOwner := by
    intro cp hcp
    rw [h.contactPoints] at hcp
    exact absurd hcp List.not_mem_nil
  subPolicyOwner := fun route hroute sub hsub name hname =>
    absurd hname (h.subPolicies route hroute sub hsub name)
  others := rfl

theorem Start.consistent {w : World} (h : Start w) : Consistent w where
  sound := by
    refine ⟨h.kong, ?_⟩
    rw [h.operators]
    exact List.forall_mem_nil _
  names := by
    rw [h.operators]
    exact List.nodup_nil
  sendAlert := h.sendAlert

/-!
## Calls
-/

/-- A new operator has a name that no operator has, and unless its group is taken its uid is
that of no contact point and there is one Send-Alert route; the operator to delete is not
there. -/
def Meets (config : GrafanaConfig) (w : World) : OperatorCall -> Prop
  | .createOperator group _ name =>
      (forall o, o ∈ w.operators -> o.name ≠ operatorName group name) ∧
        ((exists o, o ∈ w.operators ∧ o.group = group) ∨
          (findContactPointByUid w.grafana.contactPoints
              (config.contactPointUid (operatorName group name)) = none ∧
            (topRoutes w.grafana.policyTree).countP isSendAlert = 1))
  | .deleteOperator operatorId => forall o, o ∈ w.operators -> o.id ≠ operatorId

section Calls

variable {build : KongBuild} {config : GrafanaConfig} {start w : World}

theorem mem_deleteOperator {operatorId : Nat} {o : Operator} :
    o ∈ (deleteOperator operatorId w).operators <-> o ∈ w.operators ∧ o.id ≠ operatorId := by
  unfold deleteOperator
  rw [List.mem_filter, decide_eq_true_eq]

/-- The key, the contact point and the sub-policy of a deleted operator stay. -/
theorem agrees_deleteOperator_iff (hw : Consistent w) (h : Agrees config start w)
    (operatorId : Nat) :
    Agrees config start (deleteOperator operatorId w) <->
      forall o, o ∈ w.operators -> o.id ≠ operatorId := by
  constructor
  · intro hafter o ho hid
    rcases h.key o ho with ⟨c, hfound, id, hkeys⟩
    rcases username?_eq_some hfound with ⟨hc, hname⟩
    have hsome : c.keys ≠ [] := by
      rw [hkeys]
      exact List.cons_ne_nil _ _
    rcases hafter.keyOwner c hc hsome with ⟨other, hother, hsame⟩
    rcases mem_deleteOperator.mp hother with ⟨hmem, hne⟩
    rw [List.inj_on_of_nodup_map hw.names hmem ho (hsame.trans hname)] at hne
    exact hne hid
  · intro hne
    have hall : deleteOperator operatorId w = w := by
      have hfilter := List.filter_eq_self.mpr fun o ho => decide_eq_true (hne o ho)
      unfold deleteOperator
      rw [hfilter]
    rw [hall]
    exact h

theorem Consistent.deleteOperator (h : Consistent w) (operatorId : Nat) :
    Consistent (deleteOperator operatorId w) where
  sound := ⟨h.sound.kong, fun o ho => h.sound.keys o (mem_deleteOperator.mp ho).1⟩
  names := h.names.sublist (List.filter_sublist.map _)
  sendAlert := h.sendAlert

/-- A refused operator takes the consumer of its name along. -/
theorem agrees_refused_iff (h : Agrees config start w) {kong : KongState} {operator : String}
    (hconsumers : kong.consumers = w.kong.others operator) :
    Agrees config start { w with kong := kong } <->
      forall o, o ∈ w.operators -> o.name ≠ operator := by
  have hothers : kong.others operator = w.kong.others operator :=
    others_others w.kong kong operator hconsumers
  constructor
  · intro hafter o ho hname
    rcases hafter.key o ho with ⟨c, hfound, _⟩
    rcases username?_eq_some hfound with ⟨hc, hcname⟩
    rw [hconsumers] at hc
    exact (mem_others.mp hc).2 (hcname.trans hname)
  · intro hne
    refine ⟨?_, h.contactPoint, h.subPolicy, ?_, h.contactPointOwner, h.subPolicyOwner,
      h.others⟩
    · intro o ho
      have hsame := consumer?_of_others hothers (hne o ho)
      simp only [hsame]
      exact h.key o ho
    · intro c hc hkeys
      rw [hconsumers] at hc
      exact h.keyOwner c (mem_others.mp hc).1 hkeys

/-!
### A new operator
-/

variable {row : Operator} {kong : KongState} {policyRoutes : Route}

theorem mem_withOperator {o : Operator} :
    o ∈ (w.withOperator config row kong policyRoutes).operators <->
      o ∈ w.operators ∨ o = row := by
  unfold World.withOperator
  rw [List.mem_append, List.mem_singleton]

theorem Consistent.withOperator (h : Consistent w)
    (hkey : KeyProvisioned row.name row.apikey w.kong kong)
    (hfree : forall o, o ∈ w.operators -> o.name ≠ row.name) :
    Consistent (w.withOperator config row kong policyRoutes) where
  sound := by
    refine ⟨hkey.sound, ?_⟩
    intro o ho
    rcases mem_withOperator.mp ho with ho | ho
    · have hold := h.sound.keys o ho
      have hnew := hkey.new
      have hused := hkey.used
      exact Nat.lt_trans (Nat.lt_of_lt_of_le hold hnew) hused
    · rw [ho]
      exact hkey.used
  names := by
    unfold World.withOperator
    rw [List.map_append, List.nodup_append]
    refine ⟨h.names, List.nodup_singleton _, ?_⟩
    intro name hname name' hname' heq
    rcases List.mem_map.mp hname with ⟨o, ho, honame⟩
    apply hfree o ho
    rw [honame, heq]
    exact List.mem_singleton.mp hname'
  sendAlert := by
    rcases h.sendAlert with ⟨first, hfirst⟩
    unfold World.withOperator
    rw [findPolicyNode_editPolicyTree, hfirst]
    exact ⟨_, rfl⟩

/-- A contact point that is there already has the key of another operator. -/
theorem contactPoint_new (hw : Consistent w) (h : Agrees config start w)
    (hkey : KeyProvisioned row.name row.apikey w.kong kong)
    (hafter : Agrees config start (w.withOperator config row kong policyRoutes)) :
    findContactPointByUid w.grafana.contactPoints (config.contactPointUid row.name) = none := by
  cases hfound : findContactPointByUid w.grafana.contactPoints
      (config.contactPointUid row.name) with
  | none => rfl
  | some existing =>
      have hmem := List.mem_of_find?_eq_some hfound
      have huid := List.find?_some hfound
      rw [decide_eq_true_eq] at huid
      rcases h.contactPointOwner existing hmem with ⟨o, ho, howner⟩
      rcases hafter.contactPoint o (mem_withOperator.mpr (.inl ho)) with
        ⟨cp, settings, hcp, hsettings, hcredentials⟩
      rcases hafter.contactPoint row (mem_withOperator.mpr (.inr rfl)) with
        ⟨cp', settings', hcp', hsettings', hcredentials'⟩
      -- the two operators share the contact point, and with it the key
      rw [howner, huid, hcp'] at hcp
      cases hcp
      rw [hsettings'] at hsettings
      cases hsettings
      rw [hcredentials'] at hcredentials
      have hsame := Option.some.inj hcredentials
      have hold := hw.sound.keys o ho
      have hnew := hkey.new
      omega

/-- Another Send-Alert route is given the sub-policy, which it did not have at the start. -/
theorem sendAlert_one (hstart : Start start)
    (hnode : findPolicyNode w.grafana.policyTree = some policyRoutes)
    (hafter : Agrees config start (w.withOperator config row kong policyRoutes)) :
    (topRoutes w.grafana.policyTree).countP isSendAlert = 1 := by
  rcases exists_first hnode with ⟨hsend, before, after, hroutes, hbefore⟩
  rw [hroutes]
  refine (countP_first hsend hbefore).mpr ?_
  intro route hroute
  refine eq_false_of_ne_true ?_
  intro hother
  have hothers := hafter.others
  unfold World.withOperator at hothers
  rw [topRoutes_editPolicyTree, hroutes, map_first hsend hbefore,
    eraseP_first (by exact hsend) hbefore] at hothers
  have hedited : subRoutes (withSubPolicies (newSubPolicies config row.name policyRoutes)
      route) ∈ List.map subRoutes (before ++ after.map _) :=
    List.mem_map_of_mem (List.mem_append_right before (List.mem_map_of_mem hroute))
  rw [hothers] at hedited
  rcases List.mem_map.mp hedited with ⟨atStart, hmem, hsame⟩
  rw [withSubPolicies_sendAlert hother] at hsame
  have hsub : buildSubPolicyData config (contactPointName row.name) ∈ subRoutes atStart := by
    rw [hsame]
    exact List.mem_append_right _ (List.mem_singleton.mpr rfl)
  exact hstart.subPolicies atStart (List.mem_of_mem_eraseP hmem) _ hsub row.name rfl

theorem countP_newSubPolicies (name operator : String) :
    (newSubPolicies config operator policyRoutes).countP
        (fun sub => sub.receiver = contactPointName name) =
      (subRoutes policyRoutes).countP (fun sub => sub.receiver = contactPointName name) +
        if operator = name then 1 else 0 := by
  unfold newSubPolicies
  rw [List.countP_append, List.countP_singleton]
  congr 1
  have hiff : decide ((buildSubPolicyData config (contactPointName operator)).receiver =
      contactPointName name) = decide (operator = name) := by
    refine decide_eq_decide.mpr ⟨contactPointName_inj, ?_⟩
    intro heq
    rw [heq]
    rfl
  rw [hiff]
  simp

/-- The keys of the others are untouched, and the new operator has its own. -/
theorem key_withOperator (h : Agrees config start w)
    (hkey : KeyProvisioned row.name row.apikey w.kong kong)
    (hfree : forall o, o ∈ w.operators -> o.name ≠ row.name) :
    forall o, o ∈ (w.withOperator config row kong policyRoutes).operators ->
      exists c, kong.consumer? (.username o.name) = some c ∧
        exists id, c.keys = [⟨id, o.apikey⟩] := by
  intro o ho
  rcases mem_withOperator.mp ho with ho | ho
  · have hsame := consumer?_of_others hkey.others (hfree o ho)
    rcases h.key o ho with ⟨c, hfound, hkeys⟩
    exact ⟨c, hsame.trans hfound, hkeys⟩
  · rcases hkey.consumer with ⟨c, hc, hname, hkeys⟩
    rw [ho]
    refine ⟨c, ?_, hkeys⟩
    rw [← hname]
    exact username?_of_mem hkey.sound hc

theorem keyOwner_withOperator (h : Agrees config start w)
    (hkey : KeyProvisioned row.name row.apikey w.kong kong) :
    forall c, c ∈ kong.consumers -> c.keys ≠ [] ->
      exists o, o ∈ (w.withOperator config row kong policyRoutes).operators ∧
        o.name = c.username := by
  intro c hc hkeys
  rcases Classical.em (c.username = row.name) with hname | hname
  · exact ⟨row, mem_withOperator.mpr (.inr rfl), hname.symm⟩
  · have hold : c ∈ w.kong.others row.name := by
      rw [← hkey.others]
      exact mem_others.mpr ⟨hc, hname⟩
    rcases h.keyOwner c (mem_others.mp hold).1 hkeys with ⟨o, ho, howner⟩
    exact ⟨o, mem_withOperator.mpr (.inl ho), howner⟩

/-- With a uid of its own, the new contact point comes after the others. -/
theorem contactPoints_withOperator
    (hnone : findContactPointByUid w.grafana.contactPoints
      (config.contactPointUid row.name) = none) :
    (w.withOperator config row kong policyRoutes).grafana.contactPoints =
      w.grafana.contactPoints ++ [buildContactPointPayload config row.name row.apikey] := by
  unfold World.withOperator contactPointsWith
  simp only [payload_uid, hnone]

theorem contactPoint_withOperator (h : Agrees config start w)
    (hnone : findContactPointByUid w.grafana.contactPoints
      (config.contactPointUid row.name) = none) :
    forall o, o ∈ (w.withOperator config row kong policyRoutes).operators ->
      exists cp settings, findContactPointByUid
          (w.withOperator config row kong policyRoutes).grafana.contactPoints
          (config.contactPointUid o.name) = some cp ∧
        cp.settings = some settings ∧ settings.authorizationCredentials = some o.apikey := by
  intro o ho
  rw [contactPoints_withOperator hnone]
  unfold findContactPointByUid at *
  rw [List.find?_append]
  rcases mem_withOperator.mp ho with ho | ho
  · rcases h.contactPoint o ho with ⟨cp, settings, hfound, hsettings⟩
    unfold findContactPointByUid at hfound
    rw [hfound]
    exact ⟨cp, settings, rfl, hsettings⟩
  · rw [ho, hnone]
    refine ⟨buildContactPointPayload config row.name row.apikey, _, ?_, rfl, rfl⟩
    simp

theorem contactPointOwner_withOperator (h : Agrees config start w)
    (hnone : findContactPointByUid w.grafana.contactPoints
      (config.contactPointUid row.name) = none) :
    forall cp, cp ∈ (w.withOperator config row kong policyRoutes).grafana.contactPoints ->
      exists o, o ∈ (w.withOperator config row kong policyRoutes).operators ∧
        config.contactPointUid o.name = cp.uid := by
  intro cp hcp
  rw [contactPoints_withOperator hnone] at hcp
  rcases List.mem_append.mp hcp with hcp | hcp
  · rcases h.contactPointOwner cp hcp with ⟨o, ho, howner⟩
    exact ⟨o, mem_withOperator.mpr (.inl ho), howner⟩
  · rw [List.mem_singleton.mp hcp]
    exact ⟨row, mem_withOperator.mpr (.inr rfl), rfl⟩

/-- With one Send-Alert route, that one is the only route that changes. -/
theorem topRoutes_withOperator {before after : List Route}
    (hroutes : topRoutes w.grafana.policyTree = before ++ policyRoutes :: after)
    (hsend : isSendAlert policyRoutes = true)
    (hbefore : forall route, route ∈ before -> isSendAlert route = false)
    (hone : (topRoutes w.grafana.policyTree).countP isSendAlert = 1) :
    topRoutes (w.withOperator config row kong policyRoutes).grafana.policyTree =
      before ++ { policyRoutes with
        routes := some (newSubPolicies config row.name policyRoutes) } :: after := by
  rw [hroutes] at hone
  have hafter := (countP_first hsend hbefore).mp hone
  have hsame : after.map (withSubPolicies (newSubPolicies config row.name policyRoutes)) =
      after := by
    conv_rhs => rw [← List.map_id after]
    exact List.map_congr_left fun route hroute => withSubPolicies_other (hafter route hroute)
  unfold World.withOperator
  rw [topRoutes_editPolicyTree, hroutes, map_first hsend hbefore, hsame]

/-- A sub-route of the new tree is one of the old tree or the new sub-policy. -/
theorem mem_subRoutes_withOperator
    (hnode : findPolicyNode w.grafana.policyTree = some policyRoutes)
    {route : Route} {sub : SubPolicy}
    (hroute : route ∈ topRoutes
      (w.withOperator config row kong policyRoutes).grafana.policyTree)
    (hsub : sub ∈ subRoutes route) :
    (exists old, old ∈ topRoutes w.grafana.policyTree ∧ sub ∈ subRoutes old) ∨
      sub = buildSubPolicyData config (contactPointName row.name) := by
  unfold World.withOperator at hroute
  rw [topRoutes_editPolicyTree] at hroute
  rcases List.mem_map.mp hroute with ⟨old, hold, heq⟩
  cases hsend : isSendAlert old with
  | false =>
      rw [withSubPolicies_other hsend] at heq
      rw [← heq] at hsub
      exact .inl ⟨old, hold, hsub⟩
  | true =>
      rw [withSubPolicies_sendAlert hsend] at heq
      rw [← heq] at hsub
      rcases List.mem_append.mp hsub with hsub | hsub
      · exact .inl ⟨policyRoutes, List.mem_of_find?_eq_some hnode, hsub⟩
      · exact .inr (List.mem_singleton.mp hsub)

theorem subPolicyOwner_withOperator (h : Agrees config start w)
    (hnode : findPolicyNode w.grafana.policyTree = some policyRoutes) :
    forall route, route ∈ topRoutes
        (w.withOperator config row kong policyRoutes).grafana.policyTree ->
      forall sub, sub ∈ subRoutes route -> forall name, sub.receiver = contactPointName name ->
        exists o, o ∈ (w.withOperator config row kong policyRoutes).operators ∧
          o.name = name := by
  intro route hroute sub hsub name hname
  rcases mem_subRoutes_withOperator hnode hroute hsub with ⟨old, hold, hsub⟩ | hnew
  · rcases h.subPolicyOwner old hold sub hsub name hname with ⟨o, ho, howner⟩
    exact ⟨o, mem_withOperator.mpr (.inl ho), howner⟩
  · rw [hnew] at hname
    exact ⟨row, mem_withOperator.mpr (.inr rfl), contactPointName_inj hname⟩

theorem subPolicy_withOperator (h : Agrees config start w)
    (hfree : forall o, o ∈ w.operators -> o.name ≠ row.name)
    (hnode : findPolicyNode w.grafana.policyTree = some policyRoutes) :
    forall o, o ∈ (w.withOperator config row kong policyRoutes).operators ->
      exists first, findPolicyNode
          (w.withOperator config row kong policyRoutes).grafana.policyTree = some first ∧
        (subRoutes first).countP (fun sub => sub.receiver = contactPointName o.name) = 1 := by
  intro o ho
  rcases exists_first hnode with ⟨hsend, _⟩
  have hfirst : findPolicyNode (w.withOperator config row kong policyRoutes).grafana.policyTree =
      some { policyRoutes with routes := some (newSubPolicies config row.name policyRoutes) } := by
    unfold World.withOperator
    rw [findPolicyNode_editPolicyTree, hnode, Option.map_some, withSubPolicies_sendAlert hsend]
  refine ⟨_, hfirst, (countP_newSubPolicies o.name row.name).trans ?_⟩
  rcases mem_withOperator.mp ho with ho | ho
  · rcases h.subPolicy o ho with ⟨first, hfound, hcount⟩
    rw [hnode] at hfound
    cases hfound
    rw [hcount, if_neg (hfree o ho).symm]
  · have hzero : (subRoutes policyRoutes).countP
        (fun sub => sub.receiver = contactPointName row.name) = 0 := by
      refine List.countP_eq_zero.mpr ?_
      intro sub hsub hreceiver
      rcases h.subPolicyOwner policyRoutes (List.mem_of_find?_eq_some hnode) sub hsub row.name
        (of_decide_eq_true hreceiver) with ⟨other, hother, hname⟩
      exact hfree other hother hname
    rw [ho, hzero, if_pos rfl]

/-- A new contact point and one Send-Alert route: the copies agree for the new operator too. -/
theorem Agrees.withOperator (h : Agrees config start w)
    (hkey : KeyProvisioned row.name row.apikey w.kong kong)
    (hfree : forall o, o ∈ w.operators -> o.name ≠ row.name)
    (hnode : findPolicyNode w.grafana.policyTree = some policyRoutes)
    (hnone : findContactPointByUid w.grafana.contactPoints
      (config.contactPointUid row.name) = none)
    (hone : (topRoutes w.grafana.policyTree).countP isSendAlert = 1) :
    Agrees config start (w.withOperator config row kong policyRoutes) where
  key := key_withOperator h hkey hfree
  contactPoint := contactPoint_withOperator h hnone
  subPolicy := subPolicy_withOperator h hfree hnode
  keyOwner := keyOwner_withOperator h hkey
  contactPointOwner := contactPointOwner_withOperator h hnone
  subPolicyOwner := subPolicyOwner_withOperator h hnode
  others := by
    rcases exists_first hnode with ⟨hsend, before, after, hroutes, hbefore⟩
    have hold := h.others
    rw [hroutes, eraseP_first hsend hbefore] at hold
    rw [topRoutes_withOperator hroutes hsend hbefore hone, eraseP_first (by exact hsend) hbefore]
    exact hold

/-!
### Calls
-/

theorem apply_createOperator {group tenantId : String} {name : Option String} :
    OperatorCall.apply build config w (.createOperator group tenantId name) =
      (provisionOperator build config none (operatorName group name) group tenantId w).2 := rfl

/-- Whatever is called, Kong stays sound, names stay apart, and a Send-Alert route stays. -/
theorem Consistent.apply (h : Consistent w) (call : OperatorCall) :
    Consistent (call.apply build config w) := by
  cases call with
  | deleteOperator operatorId => exact h.deleteOperator operatorId
  | createOperator group tenantId name =>
      rw [apply_createOperator]
      rcases Classical.em (Taken (operatorName group name) group w.operators) with
        htaken | hfree
      · rcases provisionOperator_taken build config h.sound tenantId
          htaken with ⟨e, kong, hkong, hnext, _, heq⟩
        rw [heq]
        exact ⟨⟨hkong, fun o ho => Nat.lt_of_lt_of_le (h.sound.keys o ho) hnext⟩, h.names,
          h.sendAlert⟩
      · rcases h.sendAlert with ⟨policyRoutes, hnode⟩
        rcases provisionOperator_free build config h.sound tenantId
          hfree hnode with ⟨key, kong, hkey, heq⟩
        rw [heq]
        exact h.withOperator hkey fun o ho hname => hfree ⟨o, ho, .inl hname⟩

/-- The copies agree after a call exactly when it meets the condition. -/
theorem agrees_apply_iff (hstart : Start start) (hw : Consistent w) (h : Agrees config start w)
    (call : OperatorCall) :
    Agrees config start (call.apply build config w) <-> Meets config w call := by
  cases call with
  | deleteOperator operatorId => exact agrees_deleteOperator_iff hw h operatorId
  | createOperator group tenantId name =>
      rw [apply_createOperator]
      rcases Classical.em (Taken (operatorName group name) group w.operators) with
        htaken | hfree
      · rcases provisionOperator_taken build config hw.sound tenantId
          htaken with ⟨e, kong, _, _, hconsumers, heq⟩
        rw [heq]
        refine (agrees_refused_iff h hconsumers).trans ?_
        constructor
        · intro hne
          refine ⟨hne, .inl ?_⟩
          rcases htaken with ⟨o, ho, hname | hgroup⟩
          · exact absurd hname (hne o ho)
          · exact ⟨o, ho, hgroup⟩
        · exact And.left
      · rcases hw.sendAlert with ⟨policyRoutes, hnode⟩
        rcases provisionOperator_free build config hw.sound tenantId
          hfree hnode with ⟨key, kong, hkey, heq⟩
        have hname : forall o, o ∈ w.operators -> o.name ≠ operatorName group name :=
          fun o ho hname => hfree ⟨o, ho, .inl hname⟩
        rw [heq]
        constructor
        · intro hafter
          exact ⟨hname, .inr ⟨contactPoint_new hw h hkey hafter,
            sendAlert_one hstart hnode hafter⟩⟩
        · intro ⟨_, hcause⟩
          rcases hcause with ⟨o, ho, hgroup⟩ | ⟨hnone, hone⟩
          · exact absurd ⟨o, ho, .inr hgroup⟩ hfree
          · exact h.withOperator hkey hname hnode hnone hone

end Calls

/-- Calls follow each other, and every request of them succeeds. -/
def callStep (build : KongBuild) (config : GrafanaConfig) (w : World) (call : OperatorCall) :
    Option World :=
  some (call.apply build config w)

/-- After each of the calls the copies agree. -/
def AgreesAfterEach (build : KongBuild) (config : GrafanaConfig) (start : World)
    (calls : List OperatorCall) : Prop :=
  Along (callStep build config) (fun w call => Agrees config start (call.apply build config w))
    start calls

/-- From a start without operators, the copies of the credentials agree after each call exactly
when every call meets the condition. -/
theorem agreesAfterEach_iff (build : KongBuild) (config : GrafanaConfig) {start : World}
    (hstart : Start start) (calls : List OperatorCall) :
    AgreesAfterEach build config start calls <->
      Along (callStep build config) (Meets config) start calls := by
  refine @along_iff_along _ _ _ _ _ (fun w => Consistent w ∧ Agrees config start w) ?_ ?_
    start ⟨hstart.consistent, hstart.agrees⟩ calls
  · intro w call ⟨hw, h⟩
    exact agrees_apply_iff hstart hw h call
  · intro w call w' ⟨hw, h⟩ hmeets hstep
    cases hstep
    exact ⟨hw.apply call, (agrees_apply_iff hstart hw h call).mpr hmeets⟩

/-- No operators, and one Send-Alert route with a sub-route of its own. -/
def noOperators : World where
  kong := { consumers := [], next := 0 }
  operators := []
  nextOperator := 0
  grafana :=
    { contactPoints := []
      policyTree :=
        { routes := some [⟨none, none, ""⟩, ⟨some [["Send-Alert", "=", "true"]], none, ""⟩]
          rest := "" } }

theorem noOperators_start : Start noOperators where
  kong := ⟨List.nodup_nil, List.nodup_nil, fun _ h => absurd h List.not_mem_nil⟩
  keys := fun _ h => absurd h List.not_mem_nil
  operators := rfl
  contactPoints := rfl
  subPolicies := by
    intro route hroute sub hsub
    simp only [noOperators, topRoutes, Option.getD_some, List.mem_cons, List.not_mem_nil,
      or_false] at hroute
    rcases hroute with hroute | hroute
    · rw [hroute] at hsub
      exact absurd hsub List.not_mem_nil
    · rw [hroute] at hsub
      exact absurd hsub List.not_mem_nil
  sendAlert := ⟨_, rfl⟩

theorem twoOperators_agree :
    AgreesAfterEach onePageKong namedContactPoints noOperators
        [.createOperator "payments" "tenant-a" none, .createOperator "cards" "tenant-b" none] <->
      Along (callStep onePageKong namedContactPoints) (Meets namedContactPoints) noOperators
        [.createOperator "payments" "tenant-a" none, .createOperator "cards" "tenant-b" none] :=
  agreesAfterEach_iff onePageKong namedContactPoints noOperators_start _

/-- An operator is deleted and created again: its contact point keeps the key that is gone. -/
theorem recreated_keepsOldKey :
    Start noOperators ∧ ¬ AgreesAfterEach onePageKong namedContactPoints noOperators
      [.createOperator "payments" "tenant-a" none, .deleteOperator 0,
        .createOperator "payments" "tenant-a" none] := by
  refine ⟨noOperators_start, ?_⟩
  intro ⟨_, hdelete⟩
  rcases hdelete _ rfl with ⟨_, hcreate⟩
  rcases hcreate _ rfl with ⟨hagrees, _⟩
  rcases hagrees.contactPoint ⟨1, "payments", "payments", "tenant-a", 4⟩
    (List.mem_singleton.mpr rfl) with ⟨cp, settings, hfound, hsettings, hcredentials⟩
  cases hfound
  cases hsettings
  cases hcredentials

end Operators
end KeepGateway
