import KeepGateway.Operators.KongEffects
import KeepGateway.Operators.Provisioning

/-!
# Effects of a provisioning

What each step of `provision_operator` does, and how the steps are taken back.
-/

namespace KeepGateway
namespace Operators

/-!
## Keys
-/

def RequestSite.ofKeys : RequestSite -> Bool
  | keysList _ _ => true
  | keyDelete _ _ => true
  | keyPost _ => true
  | _ => false

theorem none_ne_site (site : RequestSite) : ¬ none = some site := (Option.some_ne_none site).symm

section Keys

variable {build : KongBuild} {failing : Option RequestSite}

theorem ne_some_ofKeys {site : RequestSite} (hkeys : failing.any RequestSite.ofKeys = false)
    (hsite : site.ofKeys = true) : failing ≠ some site := by
  intro heq
  rw [heq, Option.any_some, hsite] at hkeys
  exact Bool.noConfusion hkeys

theorem deleteKeys_unfailing (hkeys : failing.any RequestSite.ofKeys = false) (round : Nat)
    (ref : ConsumerRef) (creds : List KeyAuth) (s : KongState) :
    deleteKeys failing round ref creds s = deleteKeys none round ref creds s := by
  induction creds generalizing s with
  | nil => rfl
  | cons cred rest ih =>
      unfold deleteKeys
      rw [if_neg (ne_some_ofKeys hkeys rfl), if_neg (none_ne_site _), ih]

theorem deletePages_unfailing (hkeys : failing.any RequestSite.ofKeys = false) (round : Nat)
    (ref : ConsumerRef) (page : Nat) (pages : List (List KeyAuth)) (s : KongState) :
    deletePages failing round ref page pages s = deletePages none round ref page pages s := by
  induction pages generalizing page s with
  | nil => rfl
  | cons data rest ih =>
      unfold deletePages
      rw [if_neg (ne_some_ofKeys hkeys rfl), if_neg (none_ne_site _),
        deleteKeys_unfailing hkeys]
      split
      · exact ih _ _
      · rfl

theorem replaceKeys_unfailing (hkeys : failing.any RequestSite.ofKeys = false) (round : Nat)
    (ref : ConsumerRef) (apiKey : Option Nat) (s : KongState) :
    replaceKeys build failing round ref apiKey s = replaceKeys build none round ref apiKey s := by
  have hdelete : deleteAllConsumerKeyAuths build failing round ref s =
      deleteAllConsumerKeyAuths build none round ref s := by
    unfold deleteAllConsumerKeyAuths
    split
    · rfl
    · exact deletePages_unfailing hkeys round ref 0 _ s
  unfold replaceKeys
  rw [hdelete]
  split
  · unfold postKeyAuth
    rw [if_neg (ne_some_ofKeys hkeys rfl), if_neg (none_ne_site _)]
  · rfl

/-- A failing request that is not one for keys does not disturb the keys. -/
theorem syncKeyAuth_unfailing (hkeys : failing.any RequestSite.ofKeys = false)
    (consumerId : Nat) (apiKey : Option Nat) (s : KongState) :
    syncKeyAuth build failing consumerId apiKey s =
      syncKeyAuth build none consumerId apiKey s := by
  unfold syncKeyAuth
  rw [replaceKeys_unfailing hkeys]
  split
  · rfl
  · rfl
  · simp only [replaceKeys_unfailing hkeys]

end Keys

/-- The consumers under other names. -/
def KongState.others (s : KongState) (operator : String) : List Consumer :=
  s.consumers.filter fun c => c.username ≠ operator

theorem others_eq_self {s : KongState} {operator : String}
    (hunknown : forall c, c ∈ s.consumers -> c.username ≠ operator) :
    s.others operator = s.consumers :=
  List.filter_eq_self.mpr fun c hc => decide_eq_true (hunknown c hc)

/-- The consumers without one of them are not all of them. -/
theorem others_ne_self {s : KongState} {operator : String} {c : Consumer}
    (hc : c ∈ s.consumers) (hname : c.username = operator) :
    s.others operator ≠ s.consumers := by
  intro heq
  rw [← heq] at hc
  exact of_decide_eq_true (List.mem_filter.mp hc).2 hname

theorem others_created (s : KongState) (operator : String) (id next : Nat) :
    KongState.others { consumers := s.consumers ++ [⟨id, operator, []⟩], next := next } operator =
      s.others operator := by
  unfold KongState.others
  rw [List.filter_append]
  simp

/-- A consumer is added under a new name. -/
theorem KongState.Sound.created {s : KongState} (h : s.Sound) {operator : String}
    (hunknown : forall c, c ∈ s.consumers -> c.username ≠ operator) :
    KongState.Sound
      { consumers := s.consumers ++ [⟨s.next, operator, []⟩], next := s.next + 1 } where
  ids := by
    rw [List.map_append, List.nodup_append]
    refine ⟨h.ids, List.nodup_singleton _, ?_⟩
    intro id hid id' hid' heq
    rcases List.mem_map.mp hid with ⟨c, hc, hcid⟩
    have hfresh := h.fresh c hc
    have hnext := List.mem_singleton.mp hid'
    simp only at hnext
    omega
  usernames := by
    rw [List.map_append, List.nodup_append]
    refine ⟨h.usernames, List.nodup_singleton _, ?_⟩
    intro name hname name' hname' heq
    rcases List.mem_map.mp hname with ⟨c, hc, hcname⟩
    apply hunknown c hc
    rw [hcname, heq]
    exact List.mem_singleton.mp hname'
  fresh := by
    intro c hc
    rcases List.mem_append.mp hc with hc | hc
    · exact Nat.lt_succ_of_lt (h.fresh c hc)
    · rw [List.mem_singleton.mp hc]
      exact Nat.lt_succ_self _

/-- Kong is sound, and a key that it hands out is not that of an operator. -/
structure World.Sound (w : World) : Prop where
  kong : w.kong.Sound
  keys : forall o, o ∈ w.operators -> o.apikey < w.kong.next

theorem rollback_consumers {build : KongBuild} {operator : String} (kong : KongState) :
    (deleteConsumer build operator (deleteApiKey build operator kong)).consumers =
      kong.others operator :=
  (deleteConsumer_consumers build operator _).trans (deleteApiKey_others build operator kong)

/-!
## The row
-/

/-- The row of a new operator. -/
def newRow (operatorName mailGroup tenantId : String) (apiKey : Nat) (w : World) : Operator :=
  ⟨w.nextOperator, operatorName, mailGroup, tenantId, apiKey⟩

def World.addRow (w : World) (row : Operator) : World :=
  { w with operators := w.operators ++ [row], nextOperator := w.nextOperator + 1 }

/-- The name or the group is that of a row. -/
def Taken (operatorName mailGroup : String) (operators : List Operator) : Prop :=
  exists o, o ∈ operators ∧ (o.name = operatorName ∨ o.group = mailGroup)

instance (operatorName mailGroup : String) (operators : List Operator) :
    Decidable (Taken operatorName mailGroup operators) :=
  List.decidableBEx _ operators

/-- A row with a new key conflicts by its name or by its group. -/
theorem conflicts_iff {row : Operator} {operators : List Operator}
    (hfresh : forall o, o ∈ operators -> o.apikey ≠ row.apikey) :
    conflicts row operators = true <-> Taken row.name row.group operators := by
  unfold conflicts Taken
  rw [List.any_eq_true]
  constructor
  · intro ⟨o, ho, hconflict⟩
    have hkey := hfresh o ho
    simp only [Bool.or_eq_true, decide_eq_true_eq, hkey, or_false] at hconflict
    exact ⟨o, ho, hconflict⟩
  · intro ⟨o, ho, htaken⟩
    refine ⟨o, ho, ?_⟩
    simp only [Bool.or_eq_true, decide_eq_true_eq]
    exact .inl htaken

/-- How `createRow` ends: nothing is stored, or the row is and cannot be read back, or it is
stored. -/
theorem createRow_cases (failing : Option RequestSite)
    (operatorName mailGroup tenantId : String) (apiKey : Nat) (w : World) :
    let row := newRow operatorName mailGroup tenantId apiKey w
    let result := createRow failing operatorName mailGroup tenantId apiKey w
    (exists e, result = (.error e, w) ∧
        (failing = some .commit ∨ conflicts row w.operators = true)) ∨
      (failing = some .refresh ∧ conflicts row w.operators = false ∧
        result = (.error (.requestFailed .refresh), w.addRow row)) ∨
      (failing ≠ some .refresh ∧ conflicts row w.operators = false ∧
        result = (.ok row, w.addRow row)) := by
  intro row result
  rcases Classical.em (failing = some .commit) with hcommit | hcommit
  · exact .inl ⟨_, if_pos hcommit, .inl hcommit⟩
  · have hresult : result = if conflicts row w.operators then
          if failing = some .nameLookup then (.error (.requestFailed .nameLookup), w)
          else if w.operators.any fun o => o.name = operatorName then
            (.error (.operatorNameTaken operatorName), w)
          else (.error (.operatorGroupTaken mailGroup), w)
        else if failing = some .refresh then
          (.error (.requestFailed .refresh), w.addRow row)
        else (.ok row, w.addRow row) := if_neg hcommit
    cases hconflicts : conflicts row w.operators with
    | true =>
        rw [hconflicts, if_pos rfl] at hresult
        rw [hresult]
        refine .inl ?_
        split
        · exact ⟨_, rfl, .inr rfl⟩
        · split
          · exact ⟨_, rfl, .inr rfl⟩
          · exact ⟨_, rfl, .inr rfl⟩
    | false =>
        rw [hconflicts, if_neg Bool.false_ne_true] at hresult
        refine .inr ?_
        rcases Classical.em (failing = some .refresh) with hrefresh | hrefresh
        · rw [if_pos hrefresh] at hresult
          exact .inl ⟨hrefresh, rfl, hresult⟩
        · rw [if_neg hrefresh] at hresult
          exact .inr ⟨hrefresh, rfl, hresult⟩

/-!
## Grafana
-/

section Grafana

variable (config : GrafanaConfig)

@[simp]
theorem payload_uid (operator : String) (apiKey : Nat) :
    (buildContactPointPayload config operator apiKey).uid = config.contactPointUid operator :=
  rfl

/-- The contact point of the operator is there, and is not touched. -/
def ContactPointStands (operator : String) (contactPoints : List ContactPoint) : Prop :=
  (findContactPointByUid contactPoints (config.contactPointUid operator)).any
    (webhookContactPointUnchanged config) = true

instance (operator : String) (contactPoints : List ContactPoint) :
    Decidable (ContactPointStands config operator contactPoints) :=
  inferInstanceAs (Decidable (_ = true))

/-- The contact points with the one of an operator, which replaces one of the same uid. -/
def contactPointsWith (operator : String) (apiKey : Nat) (contactPoints : List ContactPoint) :
    List ContactPoint :=
  let payload := buildContactPointPayload config operator apiKey
  match findContactPointByUid contactPoints payload.uid with
  | some existing =>
      if webhookContactPointUnchanged config existing then contactPoints
      else contactPoints.map fun cp => if cp.uid = payload.uid then payload else cp
  | none => contactPoints ++ [payload]

theorem provisionContactPoint_none (operator : String) (apiKey : Nat) (s : GrafanaState) :
    provisionContactPoint config none operator apiKey s = (.ok (),
      { s with contactPoints := contactPointsWith config operator apiKey s.contactPoints }) := by
  unfold provisionContactPoint contactPointsWith
  simp only [if_neg (none_ne_site _)]
  cases findContactPointByUid s.contactPoints
      (buildContactPointPayload config operator apiKey).uid with
  | none => rfl
  | some existing =>
      cases hunchanged : webhookContactPointUnchanged config existing with
      | true => simp only [hunchanged, if_true]
      | false => simp only [hunchanged, Bool.false_eq_true, if_false]

def RequestSite.ofContactPoints : RequestSite -> Bool
  | contactPointsGet => true
  | contactPointPut => true
  | contactPointPost => true
  | _ => false

/-- Either a request for contact points fails, and Grafana is as it was, or none does. -/
theorem provisionContactPoint_cases (failing : Option RequestSite) (operator : String)
    (apiKey : Nat) (s : GrafanaState) :
    (failing.any RequestSite.ofContactPoints = true ∧ exists e,
        provisionContactPoint config failing operator apiKey s = (.error e, s)) ∨
      provisionContactPoint config failing operator apiKey s = (.ok (),
        { s with contactPoints := contactPointsWith config operator apiKey s.contactPoints }) := by
  rw [← provisionContactPoint_none]
  unfold provisionContactPoint
  simp only [if_neg (none_ne_site _)]
  rcases Classical.em (failing = some .contactPointsGet) with hget | hget
  · rw [if_pos hget, hget]
    exact .inl ⟨rfl, _, rfl⟩
  · rw [if_neg hget]
    split
    · split
      · exact .inr rfl
      · rcases Classical.em (failing = some .contactPointPut) with hput | hput
        · rw [if_pos hput, hput]
          exact .inl ⟨rfl, _, rfl⟩
        · rw [if_neg hput]
          exact .inr rfl
    · rcases Classical.em (failing = some .contactPointPost) with hpost | hpost
      · rw [if_pos hpost, hpost]
        exact .inl ⟨rfl, _, rfl⟩
      · rw [if_neg hpost]
        exact .inr rfl

theorem unchanged_payload (operator : String) (apiKey : Nat) :
    webhookContactPointUnchanged config (buildContactPointPayload config operator apiKey) =
      true := by
  unfold webhookContactPointUnchanged buildContactPointPayload
  have hmethod : "POST".toList.flatMap upper = "POST".toList := by decide
  have hnonempty : "POST" ≠ "" := by decide
  simp only [Option.getD_some, if_neg hnonempty, hmethod, decide_true, Bool.and_self]

/-- The contact points stay as they are only if the one of the operator stands. -/
theorem contactPointsWith_eq_self_iff (operator : String) (apiKey : Nat)
    (contactPoints : List ContactPoint) :
    contactPointsWith config operator apiKey contactPoints = contactPoints <->
      ContactPointStands config operator contactPoints := by
  unfold contactPointsWith ContactPointStands
  simp only [payload_uid]
  cases hfound : findContactPointByUid contactPoints (config.contactPointUid operator) with
  | none => simp
  | some existing =>
      rw [Option.any_some]
      cases hunchanged : webhookContactPointUnchanged config existing with
      | true => simp [hunchanged]
      | false =>
          simp only [hunchanged, Bool.false_eq_true, if_false, iff_false]
          intro heq
          -- the contact point would be the new one, which is up to date
          have hmem := List.mem_of_find?_eq_some hfound
          have hexisting := List.find?_some hfound
          rw [decide_eq_true_eq] at hexisting
          have hsame := List.map_eq_map_iff.mp (heq.trans (List.map_id _).symm) existing hmem
          have hpayload := (if_pos hexisting).symm.trans hsame
          rw [id_eq] at hpayload
          rw [← hpayload, unchanged_payload] at hunchanged
          exact Bool.noConfusion hunchanged

/-- How `provisionSubPolicy` fails. -/
theorem provisionSubPolicy_error {failing : Option RequestSite} {contactPointName : String}
    {s s' : GrafanaState} {e : ProvisionError}
    (h : provisionSubPolicy config failing contactPointName s = (.error e, s')) :
    s' = s ∧ (e = .sendAlertMissing ∨ failing = some .policiesGet ∨
      failing = some .policiesPut) := by
  unfold provisionSubPolicy at h
  split at h
  · rename_i hget
    cases h
    exact ⟨rfl, .inr (.inl hget)⟩
  · split at h
    · cases h
      exact ⟨rfl, .inl rfl⟩
    · simp only at h
      split at h
      · rename_i hput
        cases h
        exact ⟨rfl, .inr (.inr hput)⟩
      · cases h

end Grafana

/-!
## The steps in their order
-/

section Steps

variable (build : KongBuild) (config : GrafanaConfig) (failing : Option RequestSite)

/-- The steps of `provision_operator` from the row on. -/
def afterKey (operatorName mailGroup tenantId : String) (provisionedKey : Nat) (w : World) :
    Except ProvisionError Operator × World :=
  match createRow failing operatorName mailGroup tenantId provisionedKey w with
  | (.error e, w) =>
      (.error e, rollbackProvisioning build config operatorName
        [.kongConsumer, .kongApiKey] w)
  | (.ok operator, w) =>
      match ensureGrafanaConnections config failing operatorName provisionedKey w.grafana with
      | (.error e, grafana) =>
          (.error e, rollbackProvisioning build config operatorName
            [.kongConsumer, .kongApiKey, .operatorRow] { w with grafana := grafana })
      | (.ok (), grafana) => (.ok operator, { w with grafana := grafana })

/-- The steps of `provision_operator` from the key on. -/
def afterConsumer (operatorName mailGroup tenantId : String) (consumerId : Nat) (w : World) :
    Except ProvisionError Operator × World :=
  match syncKeyAuth build failing consumerId none w.kong with
  | (.error e, kong) =>
      (.error e, rollbackProvisioning build config operatorName [.kongConsumer]
        { w with kong := kong })
  | (.ok provisionedKey, kong) =>
      afterKey build config failing operatorName mailGroup tenantId provisionedKey
        { w with kong := kong }

theorem provisionOperator_eq (operatorName mailGroup tenantId : String) (w : World) :
    provisionOperator build config failing operatorName mailGroup tenantId w =
      match ensureConsumer failing operatorName w.kong with
      | (.error e, kong) => (.error e, { w with kong := kong })
      | (.ok consumerId, kong) =>
          afterConsumer build config failing operatorName mailGroup tenantId consumerId
            { w with kong := kong } := rfl

end Steps

end Operators
end KeepGateway
