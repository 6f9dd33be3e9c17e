import KeepGateway.Deduplication.RuleRequests
import KeepGateway.Lib.Except
import KeepGateway.Lib.Spans

/-!
# Lookups after requests for rules

When the lookup of the rules of a provider finds one row at most, after every call of a run.
-/

namespace KeepGateway
namespace Deduplication
namespace RuleRequests

/-!
## The law and its condition
-/

/-- The tenant, the provider id and the provider type that a row is looked up by. -/
structure ProviderKey where
  tenantId : String
  providerId : Option String
  providerType : String
  deriving DecidableEq, Repr

def keyOfRow (row : AlertDeduplicationRule) : ProviderKey :=
  ⟨row.tenantId, row.providerId, row.providerType⟩

/-- No lookup raises, and a row that is taken is one of the tenant, the provider id and the type
that are asked for. -/
structure LookupsSound (env : Overview.Environment) (db : Database) : Prop where
  returns : forall tenantId providerId providerType, exists rules,
    getDeduplicationRules env db tenantId providerId providerType = .ok rules
  belongs : forall tenantId providerId providerType rules row,
    getDeduplicationRules env db tenantId providerId providerType = .ok rules ->
      .custom row ∈ rules ->
        keyOfRow row = ⟨tenantId, providerId, providerTypeOrKeep providerType⟩ ∧
          exists stored, stored ∈ db.rules ∧ row = { stored with ignoreFields := row.ignoreFields }

/-- The key that a call leaves in a row: a new one, or the one with the id. -/
structure Written where
  id : Option Nat
  key : ProviderKey
  deriving DecidableEq, Repr

/-- The key of the row that is stored for a request, where its provider is known. -/
def createdKey (tenantId : String) (providers : List Overview.Provider)
    (request : DeduplicationRuleRequestDto) : Option ProviderKey :=
  let keyed := withProviderKey request
  if (providers.any fun provider =>
      keyed.1 == Overview.keyOf provider.type provider.id) && keyed.2.description.isSome then
    some ⟨tenantId, keyed.2.providerId, keyed.2.providerType⟩
  else none

section

variable (toUuid : String -> Option Nat) (env : Overview.Environment)

/-- What a call writes. -/
def Call.written (db : Database) (call : Call) : Option Written :=
  match call.action with
  | .create rule _ => (createdKey call.tenantId call.providers rule).map fun key => ⟨none, key⟩
  | .update ruleId rule _ =>
      if ruleId = env.generateUuid rule.providerId (some rule.providerType) then
        (createdKey call.tenantId call.providers rule).map fun key => ⟨none, key⟩
      else
        match getDeduplicationRuleById toUuid db call.tenantId ruleId with
        | none => none
        | some row =>
            if row.isProvisioned || rule.description.isNone then none
            else some ⟨some row.id, ⟨call.tenantId, rule.providerId, rule.providerType⟩⟩
  | .delete _ => none

/-- No other row has the key that the call writes.  A row without a provider type is never looked
up. -/
def Call.Fits (db : Database) (call : Call) : Prop :=
  forall written, call.written toUuid env db = some written -> written.key.providerType ≠ "" ->
    forall row, row ∈ db.rules -> keyOfRow row = written.key -> some row.id = written.id

end

/-!
## Unique keys
-/

/-- Rows with one key are one row, unless they are never looked up. -/
def UniqueKeys (rules : List AlertDeduplicationRule) : Prop :=
  forall row other, row ∈ rules -> other ∈ rules -> keyOfRow row = keyOfRow other ->
    row.providerType ≠ "" -> row.id = other.id

theorem UniqueKeys.subset {rules fewer : List AlertDeduplicationRule} (h : UniqueKeys rules)
    (hsub : fewer ⊆ rules) : UniqueKeys fewer :=
  fun row other hrow hother => h row other (hsub hrow) (hsub hother)

theorem uniqueKeys_append {rules : List AlertDeduplicationRule} {new : AlertDeduplicationRule}
    (h : UniqueKeys rules) (hid : forall row, row ∈ rules -> row.id ≠ new.id) :
    UniqueKeys (rules ++ [new]) <-> (new.providerType ≠ "" ->
      forall row, row ∈ rules -> keyOfRow row ≠ keyOfRow new) := by
  constructor
  · intro hunique htype row hrow hkey
    have hrowType : row.providerType ≠ "" := by
      rw [(ProviderKey.mk.inj hkey).2.2]
      exact htype
    exact hid row hrow (hunique row new (List.mem_append_left _ hrow) List.mem_concat_self hkey
      hrowType)
  · intro hnew row other hrow hother hkey htype
    rcases List.mem_append.mp hrow with hrow | hrow
    · rcases List.mem_append.mp hother with hother | hother
      · exact h row other hrow hother hkey htype
      · rw [List.mem_singleton.mp hother] at hkey
        have hnewType : new.providerType ≠ "" := by
          rw [← (ProviderKey.mk.inj hkey).2.2]
          exact htype
        exact absurd hkey (hnew hnewType row hrow)
    · rw [List.mem_singleton.mp hrow] at hkey htype ⊢
      rcases List.mem_append.mp hother with hother | hother
      · exact absurd hkey.symm (hnew htype other hother)
      · rw [List.mem_singleton.mp hother]

/-- Of the rows, one takes a key. -/
theorem uniqueKeys_replaced {rules : List AlertDeduplicationRule} {tenantId : String}
    {target : AlertDeduplicationRule} {key : ProviderKey}
    {change : AlertDeduplicationRule -> AlertDeduplicationRule} (h : UniqueKeys rules)
    (htarget : target ∈ rules) (htenant : target.tenantId = tenantId)
    (hchange : forall row, row.tenantId = tenantId ->
      keyOfRow { change row with id := row.id } = key) :
    UniqueKeys (rules.map (replaced tenantId target.id change)) <->
      (key.providerType ≠ "" -> forall row, row ∈ rules -> keyOfRow row = key ->
        row.id = target.id) := by
  have hchanged : forall row, row.id = target.id ∧ row.tenantId = tenantId ->
      keyOfRow (replaced tenantId target.id change row) = key := by
    intro row hrow
    unfold replaced
    rw [if_pos hrow]
    exact hchange row hrow.2
  have hkept : forall row, ¬ (row.id = target.id ∧ row.tenantId = tenantId) ->
      replaced tenantId target.id change row = row := fun row hrow => if_neg hrow
  constructor
  · intro hunique htype row hrow hkey
    rcases Classical.em (row.id = target.id) with hid | hid
    · exact hid
    · have hsame := hkept row fun hboth => hid hboth.1
      have htargetKey := hchanged target ⟨rfl, htenant⟩
      have hids := hunique (replaced tenantId target.id change row)
        (replaced tenantId target.id change target) (List.mem_map_of_mem hrow)
        (List.mem_map_of_mem htarget)
      rw [replaced_id, replaced_id, hsame, htargetKey] at hids
      refine hids hkey ?_
      rw [← congrArg ProviderKey.providerType hkey] at htype
      exact htype
  · intro hfits row' other' hrow' hother' hkey htype
    rcases List.mem_map.mp hrow' with ⟨row, hrow, rfl⟩
    rcases List.mem_map.mp hother' with ⟨other, hother, rfl⟩
    rw [replaced_id, replaced_id]
    rcases Classical.em (row.id = target.id ∧ row.tenantId = tenantId) with hthis | hnot
    · have hrowKey := hchanged row hthis
      have hkeyType : key.providerType ≠ "" := by
        rw [← congrArg ProviderKey.providerType hrowKey]
        exact htype
      rcases Classical.em (other.id = target.id ∧ other.tenantId = tenantId) with hboth | hother'
      · rw [hthis.1, hboth.1]
      · rw [hkept other hother', hrowKey] at hkey
        rw [hthis.1, hfits hkeyType other hother hkey.symm]
    · rw [hkept row hnot] at hkey htype
      rcases Classical.em (other.id = target.id ∧ other.tenantId = tenantId) with hthis | hother'
      · rw [hchanged other hthis] at hkey
        have hkeyType : key.providerType ≠ "" := by
          rw [← congrArg ProviderKey.providerType hkey]
          exact htype
        rw [hfits hkeyType row hrow hkey, hthis.1]
      · rw [hkept other hother'] at hkey
        exact h row other hrow hother hkey htype

/-!
## What a call does to the rows
-/

section

variable {toUuid : String -> Option Nat} {env : Overview.Environment}

theorem createDeduplicationRule_cases (tenantId : String) (providers : List Overview.Provider)
    (rule : DeduplicationRuleRequestDto) (createdBy : String) (db : Database) :
    (createdKey tenantId providers rule = none ∧
      exists error, createDeduplicationRule tenantId providers rule createdBy db = .error error) ∨
    exists new, createdKey tenantId providers rule = some (keyOfRow new) ∧
      (forall row, row ∈ db.rules -> row.id ≠ new.id) ∧
        exists db', createDeduplicationRule tenantId providers rule createdBy db = .ok db' ∧
          db'.rules = db.rules ++ [new] := by
  unfold createdKey createDeduplicationRule
  dsimp only
  cases hknown : providers.any fun provider =>
    (withProviderKey rule).1 == Overview.keyOf provider.type provider.id with
  | false => exact Or.inl ⟨rfl, _, rfl⟩
  | true =>
      cases hdescription : (withProviderKey rule).2.description with
      | none => exact Or.inl ⟨rfl, _, rfl⟩
      | some description =>
          refine Or.inr ⟨{ newRow tenantId description createdBy (withProviderKey rule).2 with
            id := db.nextId }, rfl, ?_, _, rfl, rfl⟩
          intro row hrow
          exact Nat.ne_of_lt (db.fresh row hrow)

theorem mem_of_getDeduplicationRuleById {db : Database} {tenantId ruleId : String}
    {row : AlertDeduplicationRule}
    (h : getDeduplicationRuleById toUuid db tenantId ruleId = some row) :
    row ∈ db.rules ∧ row.tenantId = tenantId := by
  rcases Option.bind_eq_some_iff.mp h with ⟨id, _, hfound⟩
  have hboth := List.find?_some hfound
  rw [Bool.and_eq_true, beq_iff_eq] at hboth
  exact ⟨List.mem_of_find?_eq_some hfound, hboth.1⟩

/-- A call writes nothing, appends a row, or gives a row of its tenant another key. -/
structure Writes (db : Database) (call : Call) (written : Option Written)
    (rules : List AlertDeduplicationRule) : Prop where
  cases : (written = none ∧ rules ⊆ db.rules) ∨
    (exists new, written = some ⟨none, keyOfRow new⟩ ∧
      (forall row, row ∈ db.rules -> row.id ≠ new.id) ∧ rules = db.rules ++ [new]) ∨
    exists target key change, written = some ⟨some target.id, key⟩ ∧ target ∈ db.rules ∧
      target.tenantId = call.tenantId ∧
      (forall row, row.tenantId = call.tenantId ->
        keyOfRow { change row with id := row.id } = key) ∧
      rules = db.rules.map (replaced call.tenantId target.id change)

theorem Call.run_rules {db db' : Database} {call : Call}
    (h : call.perform toUuid env db = .ok db') : (call.run toUuid env db).rules = db'.rules := by
  unfold Call.run
  rw [h]

theorem Call.run_of_error {db : Database} {call : Call} {error : RequestError}
    (h : call.perform toUuid env db = .error error) : call.run toUuid env db = db := by
  unfold Call.run
  rw [h]

/-- A call that fails writes nothing. -/
theorem writes_of_error {db : Database} {call : Call} {error : RequestError}
    (hperform : call.perform toUuid env db = .error error) :
    Writes db call none (call.run toUuid env db).rules := by
  rw [Call.run_of_error hperform]
  exact ⟨Or.inl ⟨rfl, List.Subset.refl _⟩⟩

/-- A call that creates, directly or for the id of a default rule. -/
theorem writes_of_create {db : Database} {call : Call} {rule : DeduplicationRuleRequestDto}
    {createdBy : String} (hperform : call.perform toUuid env db =
      createDeduplicationRule call.tenantId call.providers rule createdBy db) :
    Writes db call ((createdKey call.tenantId call.providers rule).map fun key => ⟨none, key⟩)
      (call.run toUuid env db).rules := by
  rcases createDeduplicationRule_cases call.tenantId call.providers rule createdBy db with
    ⟨hnone, error, herror⟩ | ⟨new, hkey, hfresh, db', hok, hrules⟩
  · rw [hnone]
    exact writes_of_error (hperform.trans herror)
  · rw [hkey, Call.run_rules (hperform.trans hok)]
    exact ⟨Or.inr (Or.inl ⟨new, rfl, hfresh, hrules⟩)⟩

/-- A call that updates a stored rule. -/
theorem writes_of_update {db : Database} {tenantId : String} {providers : List Overview.Provider}
    {ruleId : String} {rule : DeduplicationRuleRequestDto} {updatedBy : String}
    (hother : ruleId ≠ env.generateUuid rule.providerId (some rule.providerType)) :
    Writes db ⟨tenantId, providers, .update ruleId rule updatedBy⟩
      (Call.written toUuid env db ⟨tenantId, providers, .update ruleId rule updatedBy⟩)
      (Call.run toUuid env db ⟨tenantId, providers, .update ruleId rule updatedBy⟩).rules := by
  have hperform : Call.perform toUuid env ⟨tenantId, providers,
      .update ruleId rule updatedBy⟩ db = _ := if_neg hother
  have hwritten : Call.written toUuid env db ⟨tenantId, providers,
      .update ruleId rule updatedBy⟩ = _ := if_neg hother
  rw [hwritten]
  cases hfound : getDeduplicationRuleById toUuid db tenantId ruleId with
  | none =>
      rw [hfound] at hperform
      exact writes_of_error hperform
  | some row =>
      rw [hfound] at hperform
      dsimp only at hperform ⊢
      cases hprovisioned : row.isProvisioned with
      | true =>
          rw [hprovisioned, if_pos rfl] at hperform
          exact writes_of_error hperform
      | false =>
          rw [hprovisioned, if_neg Bool.false_ne_true] at hperform
          cases hdescription : rule.description with
          | none =>
              rw [hdescription] at hperform
              exact writes_of_error hperform
          | some description =>
              rw [hdescription] at hperform
              rcases mem_of_getDeduplicationRuleById hfound with ⟨hmem, htenant⟩
              refine ⟨Or.inr (Or.inr ⟨row, _, _, rfl, hmem, htenant, ?_,
                Call.run_rules hperform⟩)⟩
              intro other hother
              unfold keyOfRow overwrite
              rw [hother]

/-- A call that deletes leaves some of the rows. -/
theorem writes_of_delete {db : Database} {tenantId : String} {providers : List Overview.Provider}
    {ruleId : String} :
    Writes db ⟨tenantId, providers, .delete ruleId⟩ none
      (Call.run toUuid env db ⟨tenantId, providers, .delete ruleId⟩).rules := by
  have hperform : Call.perform toUuid env ⟨tenantId, providers, .delete ruleId⟩ db =
      deleteDeduplicationRule toUuid tenantId ruleId db := rfl
  unfold deleteDeduplicationRule at hperform
  cases hfound : getDeduplicationRuleById toUuid db tenantId ruleId with
  | none =>
      rw [hfound] at hperform
      exact writes_of_error hperform
  | some row =>
      rw [hfound] at hperform
      dsimp only at hperform
      split at hperform
      · exact writes_of_error hperform
      · rw [Call.run_rules hperform]
        exact ⟨Or.inl ⟨rfl, List.filter_sublist.subset⟩⟩

theorem Call.writes (db : Database) (call : Call) :
    Writes db call (call.written toUuid env db) (call.run toUuid env db).rules := by
  rcases call with ⟨tenantId, providers, action⟩
  cases action with
  | create rule createdBy => exact writes_of_create rfl
  | update ruleId rule updatedBy =>
      rcases Classical.em (ruleId = env.generateUuid rule.providerId (some rule.providerType)) with
        hdefault | hother
      · have hwritten : Call.written toUuid env db ⟨tenantId, providers,
            .update ruleId rule updatedBy⟩ =
              (createdKey tenantId providers rule).map fun key => ⟨none, key⟩ := if_pos hdefault
        rw [hwritten]
        exact writes_of_create (if_pos hdefault)
      · exact writes_of_update hother
  | delete ruleId => exact writes_of_delete

/-- One call keeps the keys unique exactly when it finds no other row with the key. -/
theorem uniqueKeys_run {db : Database} (h : UniqueKeys db.rules) (call : Call) :
    UniqueKeys (call.run toUuid env db).rules <-> call.Fits toUuid env db := by
  unfold Call.Fits
  rcases (@Call.writes toUuid env db call).cases with
    ⟨hwritten, hsub⟩ | ⟨new, hwritten, hfresh, hrules⟩ |
      ⟨target, key, change, hwritten, hmem, htenant, hchange, hrules⟩
  · rw [hwritten]
    constructor
    · intro _ written hnone
      cases hnone
    · intro _
      exact h.subset hsub
  · rw [hwritten, hrules, uniqueKeys_append h hfresh]
    constructor
    · intro hnew written heq htype row hrow hkey
      rw [← Option.some.inj heq] at htype hkey
      exact absurd hkey (hnew htype row hrow)
    · intro hfits htype row hrow hkey
      cases hfits _ rfl htype row hrow hkey
  · rw [hwritten, hrules, uniqueKeys_replaced h hmem htenant hchange]
    constructor
    · intro hsame written heq htype row hrow hkey
      rw [← Option.some.inj heq] at htype hkey ⊢
      exact congrArg some (hsame htype row hrow hkey)
    · intro hfits htype row hrow hkey
      exact Option.some.inj (hfits _ rfl htype row hrow hkey)

/-!
## What a lookup finds
-/

theorem providerTypeOrKeep_ne (providerType : Option String) :
    providerTypeOrKeep providerType ≠ "" := by
  unfold providerTypeOrKeep
  cases providerType with
  | none => decide
  | some text =>
      dsimp only
      split
      · decide
      case isFalse hne => exact hne

/-- The rows that a lookup matches. -/
def matching (db : Database) (key : ProviderKey) : List AlertDeduplicationRule :=
  db.rules.filter fun row => row.tenantId == key.tenantId && row.providerId == key.providerId &&
    row.providerType == key.providerType

theorem mem_matching {db : Database} {key : ProviderKey} {row : AlertDeduplicationRule} :
    row ∈ matching db key <-> row ∈ db.rules ∧ keyOfRow row = key := by
  unfold matching keyOfRow
  rw [List.mem_filter, Bool.and_eq_true, Bool.and_eq_true, beq_iff_eq, beq_iff_eq, beq_iff_eq]
  cases key
  rw [ProviderKey.mk.injEq, and_assoc]

theorem oneOrNone_eq_ok {α : Type} {rows : List α} {result : Option α} :
    oneOrNone rows = .ok result <-> rows = result.toList := by
  rcases rows with _ | ⟨first, _ | ⟨second, rest⟩⟩
  · cases result with
    | none => exact iff_of_true rfl rfl
    | some row => exact iff_of_false (fun h => nomatch h) (List.cons_ne_nil _ _).symm
  · cases result with
    | none => exact iff_of_false (fun h => nomatch h) (List.cons_ne_nil _ _)
    | some row =>
        constructor
        · intro h
          rw [Option.some.inj (Except.ok.inj h)]
          rfl
        · intro h
          rw [(List.cons.inj h).1]
          rfl
  · refine iff_of_false (fun h => nomatch h) ?_
    cases result with
    | none => exact List.cons_ne_nil _ _
    | some row => exact fun h => List.cons_ne_nil _ _ (List.cons.inj h).2

/-- A lookup with custom rules enabled, by what it finds. -/
theorem getDeduplicationRules_eq_ok (henabled : env.customDeduplicationEnabled = true)
    (db : Database) (tenantId : String) (providerId providerType : Option String) :
    (exists rules, getDeduplicationRules env db tenantId providerId providerType = .ok rules) <->
      exists result : Option AlertDeduplicationRule,
        matching db ⟨tenantId, providerId, providerTypeOrKeep providerType⟩ = result.toList := by
  have hlookup : customRule env db tenantId providerId (providerTypeOrKeep providerType) =
      oneOrNone (matching db ⟨tenantId, providerId, providerTypeOrKeep providerType⟩) :=
    if_pos henabled
  unfold getDeduplicationRules
  dsimp only
  rw [hlookup]
  constructor
  · rintro ⟨rules, hrules⟩
    rcases map_eq_ok.mp hrules with ⟨result, hresult, _⟩
    exact ⟨result, oneOrNone_eq_ok.mp hresult⟩
  · rintro ⟨result, hresult⟩
    exact ⟨_, map_eq_ok.mpr ⟨result, oneOrNone_eq_ok.mpr hresult, rfl⟩⟩

/-- A row that a lookup takes is one of those it matches, its ignored fields apart. -/
theorem custom_mem_matching {db : Database} {tenantId : String}
    {providerId providerType : Option String} {rules : List TakenRule}
    {row : AlertDeduplicationRule}
    (hrules : getDeduplicationRules env db tenantId providerId providerType = .ok rules)
    (hrow : .custom row ∈ rules) :
    exists stored,
      stored ∈ matching db ⟨tenantId, providerId, providerTypeOrKeep providerType⟩ ∧
        row = { stored with ignoreFields := row.ignoreFields } := by
  rcases map_eq_ok.mp hrules with ⟨result, hresult, htaken⟩
  rw [← htaken] at hrow
  cases result with
  | none => cases List.mem_singleton.mp hrow
  | some stored =>
      have hmem : stored ∈
          matching db ⟨tenantId, providerId, providerTypeOrKeep providerType⟩ := by
        unfold customRule at hresult
        split at hresult
        · have hfound := oneOrNone_eq_ok.mp hresult
          show stored ∈ List.filter _ _
          rw [hfound]
          exact List.mem_singleton_self stored
        · cases hresult
      refine ⟨stored, hmem, ?_⟩
      unfold takenRules at hrow
      dsimp only at hrow
      split at hrow
      · cases List.mem_singleton.mp hrow
        rfl
      · cases List.mem_singleton.mp hrow
        rfl

theorem lookupsSound_of_returns {db : Database}
    (h : forall tenantId providerId providerType, exists rules,
      getDeduplicationRules env db tenantId providerId providerType = .ok rules) :
    LookupsSound env db := by
  refine ⟨h, ?_⟩
  intro tenantId providerId providerType rules row hrules hrow
  rcases custom_mem_matching hrules hrow with ⟨stored, hstored, heq⟩
  rcases mem_matching.mp hstored with ⟨hmem, hkey⟩
  refine ⟨?_, stored, hmem, heq⟩
  rw [heq]
  exact hkey

theorem lookupsSound_of_disabled (henabled : env.customDeduplicationEnabled = false)
    (db : Database) : LookupsSound env db := by
  apply lookupsSound_of_returns
  intro tenantId providerId providerType
  unfold getDeduplicationRules customRule
  dsimp only
  rw [henabled]
  exact ⟨_, rfl⟩

/-- Where the keys are unique, a lookup matches one row at most. -/
theorem matching_eq_toList {db : Database} (h : UniqueKeys db.rules) {key : ProviderKey}
    (htype : key.providerType ≠ "") :
    exists result : Option AlertDeduplicationRule, matching db key = result.toList := by
  have hsub : (matching db key).Sublist db.rules := List.filter_sublist
  have hnodup := db.distinct.sublist (hsub.map AlertDeduplicationRule.id)
  have hkeys : forall row, row ∈ matching db key -> row ∈ db.rules ∧ keyOfRow row = key :=
    fun row hrow => mem_matching.mp hrow
  clear hsub
  generalize matching db key = rows at hnodup hkeys ⊢
  rcases rows with _ | ⟨first, _ | ⟨second, rest⟩⟩
  · exact ⟨none, rfl⟩
  · exact ⟨some first, rfl⟩
  · rcases hkeys first List.mem_cons_self with ⟨hfirst, hfirstKey⟩
    rcases hkeys second (List.mem_cons_of_mem _ List.mem_cons_self) with ⟨hsecond, hsecondKey⟩
    rw [← hfirstKey] at htype
    have hid := h first second hfirst hsecond (hfirstKey.trans hsecondKey.symm) htype
    rw [List.map_cons, List.map_cons, hid] at hnodup
    exact absurd List.mem_cons_self (List.nodup_cons.mp hnodup).1

/-- With custom rules enabled, no lookup raises exactly when the keys are unique. -/
theorem lookupsSound_iff_uniqueKeys (henabled : env.customDeduplicationEnabled = true)
    (db : Database) : LookupsSound env db <-> UniqueKeys db.rules := by
  constructor
  · intro h row other hrow hother hkey htype
    have hkeep : providerTypeOrKeep (some row.providerType) = row.providerType := if_neg htype
    rcases (getDeduplicationRules_eq_ok henabled db row.tenantId row.providerId
      (some row.providerType)).mp (h.returns _ _ _) with ⟨result, hresult⟩
    rw [hkeep] at hresult
    have hrowMem := mem_matching.mpr ⟨hrow, rfl⟩
    have hotherMem := mem_matching.mpr ⟨hother, hkey.symm⟩
    unfold keyOfRow at hrowMem hotherMem
    rw [hresult] at hrowMem hotherMem
    rw [Option.mem_toList.mp hrowMem] at hotherMem
    rw [Option.some.inj (Option.mem_toList.mp hotherMem)]
  · intro h
    apply lookupsSound_of_returns
    intro tenantId providerId providerType
    apply (getDeduplicationRules_eq_ok henabled db tenantId providerId providerType).mpr
    exact matching_eq_toList h (providerTypeOrKeep_ne providerType)

/-!
## Runs
-/

theorem after_concat (calls : List Call) (call : Call) :
    after toUuid env (calls ++ [call]) = call.run toUuid env (after toUuid env calls) := by
  unfold after
  rw [List.foldl_append]
  rfl

/-- The keys are unique after every call exactly when every call finds no other row with the key
that it writes. -/
theorem uniqueKeys_after_iff (calls : List Call) :
    ((forall before call rest, calls = before ++ call :: rest ->
        UniqueKeys (after toUuid env (before ++ [call])).rules) <->
      forall before call rest, calls = before ++ call :: rest ->
        call.Fits toUuid env (after toUuid env before)) ∧
    ((forall before call rest, calls = before ++ call :: rest ->
        call.Fits toUuid env (after toUuid env before)) ->
      UniqueKeys (after toUuid env calls).rules) := by
  induction calls using List.reverseRecOn with
  | nil =>
      have hnone : forall {p : List Call -> Call -> Prop} before call rest,
          ([] : List Call) = before ++ call :: rest -> p before call := by
        intro p before call rest h
        exact absurd h.symm (List.append_ne_nil_of_right_ne_nil _ (List.cons_ne_nil _ _))
      refine ⟨iff_of_true hnone hnone, fun _ row _ hrow => absurd hrow List.not_mem_nil⟩
  | append_singleton calls last ih =>
      rcases ih with ⟨hiff, hunique⟩
      have hlast : (forall before call rest, calls = before ++ call :: rest ->
          call.Fits toUuid env (after toUuid env before)) ->
            (UniqueKeys (after toUuid env (calls ++ [last])).rules <->
              last.Fits toUuid env (after toUuid env calls)) := by
        intro hfits
        rw [after_concat]
        exact uniqueKeys_run (hunique hfits) last
      rw [Splits.forall_split_concat, Splits.forall_split_concat, hiff]
      refine ⟨and_congr_right hlast, ?_⟩
      rintro ⟨hfits, hfit⟩
      exact (hlast hfits).mpr hfit

/-- No lookup raises after any call of a run exactly when custom rules are not in use or every
call finds no other row of its tenant with the provider id and type that it writes. -/
theorem lookupsSound_iff (toUuid : String -> Option Nat) (env : Overview.Environment)
    (calls : List Call) :
    (forall before call rest, calls = before ++ call :: rest ->
      LookupsSound env (after toUuid env (before ++ [call]))) <->
    (env.customDeduplicationEnabled = true ->
      forall before call rest, calls = before ++ call :: rest ->
        call.Fits toUuid env (after toUuid env before)) := by
  cases henabled : env.customDeduplicationEnabled with
  | false =>
      exact iff_of_true (fun _ _ _ _ => lookupsSound_of_disabled henabled _)
        fun h => absurd h Bool.false_ne_true
  | true =>
      simp only [lookupsSound_iff_uniqueKeys henabled, forall_const]
      exact (uniqueKeys_after_iff calls).1

end

/-!
## Two rules for one provider
-/

def codeWithoutProviders : Overview.Environment where
  available := []
  lower := fun text => String.ofList (text.toList.map Char.toLower)
  uuid5 := fun name => name
  customDeduplicationEnabled := true
  deduplicationDistributionEnabled := true

/-- A rule by host for an installed provider. -/
def createForPrometheus : Call where
  tenantId := "keep"
  providers := [⟨some "p1", "Prometheus", "prometheus", ["alert"], none⟩]
  action := .create ⟨"by host", some "one alert for each host", "prometheus", some "p1", ["host"],
    false, none⟩ "john"

/-- Creating the rule twice, the lookup for its provider raises. -/
theorem twoCreates_not_lookupsSound :
    ¬ forall before call rest, [createForPrometheus, createForPrometheus] =
      before ++ call :: rest ->
        LookupsSound codeWithoutProviders
          (after String.toNat? codeWithoutProviders (before ++ [call])) := by
  intro h
  rcases (h [createForPrometheus] createForPrometheus [] rfl).returns "keep" (some "p1")
    (some "prometheus") with ⟨rules, hrules⟩
  have hraises : getDeduplicationRules codeWithoutProviders
      (after String.toNat? codeWithoutProviders [createForPrometheus, createForPrometheus])
        "keep" (some "p1") (some "prometheus") = .error .multipleResultsFound := rfl
  rw [List.singleton_append, hraises] at hrules
  cases hrules

end RuleRequests
end Deduplication
end KeepGateway
