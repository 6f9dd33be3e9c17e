import KeepGateway.Deduplication.OverviewListing
import Mathlib.Algebra.Field.Rat

/-!
# The overview and its statistics

When the overview of a tenant lists each expected rule once, with the numbers of its events.
-/

namespace KeepGateway
namespace Deduplication
namespace Overview

open Hours

section

variable {env : Environment} {tenant : Tenant}

/-!
## Statistics
-/

/-- What the two loops over the list make of a rule. -/
def rated (env : Environment) (stats : AllStats) (rule : DeduplicationRuleDto) :
    DeduplicationRuleDto :=
  if env.deduplicationDistributionEnabled then withDistribution stats (withStats stats rule)
  else withStats stats rule

/-- A count in the entry of a rule, which may have no id. -/
def countFor (count : DeduplicationStats -> Nat) (stats : AllStats) (rule : DeduplicationRuleDto) :
    Nat :=
  ((rule.id.bind fun id => stats.lookup id).map count).getD 0

/-- A rule keeps what it had, its statistics apart. -/
structure SameRule (rule other : DeduplicationRuleDto) : Prop where
  id : other.id = rule.id
  default : other.default = rule.default
  cleared : other.cleared = rule.cleared

theorem withStats_same (stats : AllStats) (rule : DeduplicationRuleDto) :
    SameRule rule (withStats stats rule) := by
  unfold withStats
  dsimp only
  split
  · exact ⟨rfl, rfl, rfl⟩
  · split
    · exact ⟨rfl, rfl, rfl⟩
    · split
      · exact ⟨rfl, rfl, rfl⟩
      · exact ⟨rfl, rfl, rfl⟩

theorem withStats_ingested (stats : AllStats) (rule : DeduplicationRuleDto) :
    (withStats stats rule).ingested = countFor DeduplicationStats.fullDedupCount stats rule +
      countFor DeduplicationStats.partialDedupCount stats rule +
        countFor DeduplicationStats.noneDedupCount stats rule := by
  unfold withStats
  dsimp only
  split
  · rfl
  · split
    · rfl
    · split
      · rfl
      · rfl

theorem withStats_dedupRatio (stats : AllStats) (rule : DeduplicationRuleDto) :
    (withStats stats rule).dedupRatio =
      ((countFor DeduplicationStats.fullDedupCount stats rule +
        countFor DeduplicationStats.partialDedupCount stats rule : Nat) : Rat) /
          ((withStats stats rule).ingested : Rat) * 100 := by
  rw [withStats_ingested]
  unfold withStats
  dsimp only
  split
  case isTrue hnone =>
    show (0 : Rat) = _
    unfold countFor
    rw [hnone, Nat.cast_zero, div_zero, zero_mul]
  case isFalse hsome =>
    split
    case h_1 hentry =>
      rw [hentry] at hsome
      exact absurd rfl hsome
    case h_2 entry hentry =>
      split
      case isTrue hzero =>
        show (0 : Rat) = _
        unfold countFor
        rw [hzero, Nat.cast_zero, zero_div, zero_mul]
      · rfl

theorem withDistribution_same (stats : AllStats) (rule : DeduplicationRuleDto) :
    SameRule rule (withDistribution stats rule) ∧
      (withDistribution stats rule).ingested = rule.ingested ∧
        (withDistribution stats rule).dedupRatio = rule.dedupRatio := by
  unfold withDistribution
  split
  · exact ⟨⟨rfl, rfl, rfl⟩, rfl, rfl⟩
  · exact ⟨⟨rfl, rfl, rfl⟩, rfl, rfl⟩

theorem rated_same (stats : AllStats) (rule : DeduplicationRuleDto) :
    SameRule rule (rated env stats rule) ∧
      (rated env stats rule).ingested = (withStats stats rule).ingested ∧
        (rated env stats rule).dedupRatio = (withStats stats rule).dedupRatio := by
  have hstats := withStats_same stats rule
  rcases withDistribution_same stats (withStats stats rule) with ⟨hsame, hingested, hratio⟩
  unfold rated
  split
  · exact ⟨⟨hsame.id.trans hstats.id, hsame.default.trans hstats.default,
      hsame.cleared.trans hstats.cleared⟩, hingested, hratio⟩
  · exact ⟨hstats, rfl, rfl⟩

section

variable {clock : Clock} (results : Results tenant.events clock)

theorem countFor_eq {kind : String} {count : DeduplicationStats -> Nat} (h : Counts kind count)
    (rule : DeduplicationRuleDto) :
    countFor count (getAllDeduplicationStats results) rule =
      (recordedUnder tenant rule).countP fun event => event.deduplicationType == kind := by
  unfold countFor recordedUnder
  cases rule.id with
  | none =>
      have hnone : tenant.events.filter
          (fun event => some event.deduplicationRuleId == none) = [] :=
        List.filter_eq_nil_iff.mpr fun _ _ => Bool.false_ne_true
      rw [hnone]
      rfl
  | some id => exact countOf_getAllDeduplicationStats h results id

theorem full_partial_eq (rule : DeduplicationRuleDto) :
    countFor DeduplicationStats.fullDedupCount (getAllDeduplicationStats results) rule +
        countFor DeduplicationStats.partialDedupCount (getAllDeduplicationStats results) rule =
      (recordedUnder tenant rule).countP isDuplicate := by
  rw [countFor_eq results counts_full, countFor_eq results counts_partial]
  apply countP_add_of_disjoint
  intro event hfull
  rw [beq_iff_eq.mp hfull]
  rfl

/-- The events that are ingested are those of the three types. -/
theorem rated_ingested (rule : DeduplicationRuleDto) :
    (rated env (getAllDeduplicationStats results) rule).ingested =
      (recordedUnder tenant rule).countP fun event =>
        isDuplicate event || event.deduplicationType == "none" := by
  rw [(rated_same _ _).2.1, withStats_ingested, full_partial_eq, countFor_eq results counts_none]
  apply countP_add_of_disjoint
  intro event hduplicate
  rcases Bool.or_eq_true_iff.mp hduplicate with hfull | hpart
  · rw [beq_iff_eq.mp hfull]
    rfl
  · rw [beq_iff_eq.mp hpart]
    rfl

theorem ingested_eq_length_iff (rule : DeduplicationRuleDto) :
    (rated env (getAllDeduplicationStats results) rule).ingested =
        (recordedUnder tenant rule).length <->
      forall event, event ∈ recordedUnder tenant rule ->
        isDuplicate event = true ∨ event.deduplicationType = "none" := by
  rw [rated_ingested, List.countP_eq_length]
  simp only [Bool.or_eq_true, beq_iff_eq]

theorem rated_dedupRatio {rule : DeduplicationRuleDto}
    (h : (rated env (getAllDeduplicationStats results) rule).ingested =
      (recordedUnder tenant rule).length) :
    (rated env (getAllDeduplicationStats results) rule).dedupRatio =
      ratio (recordedUnder tenant rule) := by
  rw [(rated_same _ _).2.1] at h
  rw [(rated_same _ _).2.2, withStats_dedupRatio, h, full_partial_eq]
  unfold ratio
  split
  case isTrue hnone =>
    rw [hnone, List.length_nil, Nat.cast_zero, div_zero, zero_mul]
  · rw [mul_div_assoc, mul_comm]

end

/-!
## The overview
-/

variable {clock : Clock} {results : Results tenant.events clock}

theorem dropEmpty_eq {result : List DeduplicationRuleDto} (h : dropEmpty result ≠ []) :
    dropEmpty result = result := by
  rcases result with _ | ⟨rule, _ | ⟨next, rest⟩⟩
  · rfl
  · rcases Classical.em (rule.ingested = 0) with hzero | hsome
    · exact absurd (if_pos hzero) h
    · exact if_neg hsome
  · rfl

theorem getDeduplications_eq (env : Environment) (results : Results tenant.events clock) :
    env.getDeduplications tenant results = dropEmpty (((env.finalDeduplications tenant).map
      (rated env (getAllDeduplicationStats results))).mergeSort shownFirst) := by
  unfold Environment.getDeduplications rated
  dsimp only
  congr 2
  split
  · rw [List.map_map]
    rfl
  · rfl

theorem getDeduplications_perm (hne : env.getDeduplications tenant results ≠ []) :
    (env.getDeduplications tenant results).Perm ((env.finalDeduplications tenant).map
      (rated env (getAllDeduplicationStats results))) := by
  rw [getDeduplications_eq] at hne ⊢
  rw [dropEmpty_eq hne]
  exact List.mergeSort_perm _ _

theorem getDeduplications_defaultsFirst (hne : env.getDeduplications tenant results ≠ []) :
    (env.getDeduplications tenant results).Pairwise fun a b =>
      b.default = true -> a.default = true := by
  rw [getDeduplications_eq] at hne ⊢
  rw [dropEmpty_eq hne]
  refine (List.pairwise_mergeSort ?_ ?_ _).imp ?_
  · intro a b c
    unfold shownFirst
    cases a.default <;> cases b.default <;> cases c.default <;> decide
  · intro a b
    unfold shownFirst
    cases a.default <;> cases b.default <;> decide
  · intro a b h hdefault
    unfold shownFirst at h
    rw [hdefault] at h
    exact (Bool.or_eq_true_iff.mp h).resolve_right Bool.false_ne_true

/-- The rules that are shown are those of the list, their statistics apart. -/
theorem cleared_perm (hne : env.getDeduplications tenant results ≠ []) :
    ((env.getDeduplications tenant results).map DeduplicationRuleDto.cleared).Perm
      ((env.finalDeduplications tenant).map DeduplicationRuleDto.cleared) := by
  have hperm := (getDeduplications_perm hne).map DeduplicationRuleDto.cleared
  rw [List.map_map] at hperm
  refine hperm.trans (List.Perm.of_eq ?_)
  exact List.map_congr_left fun rule _ => (rated_same _ rule).1.cleared

theorem recordedUnder_congr {rule other : DeduplicationRuleDto} (h : other.id = rule.id) :
    recordedUnder tenant other = recordedUnder tenant rule := by
  unfold recordedUnder
  rw [h]

/-- Each rule that is shown is one of the list with its statistics. -/
theorem exists_of_shown (hne : env.getDeduplications tenant results ≠ [])
    {rule : DeduplicationRuleDto} (hrule : rule ∈ env.getDeduplications tenant results) :
    exists source, source ∈ env.finalDeduplications tenant ∧
      rated env (getAllDeduplicationStats results) source = rule ∧
        recordedUnder tenant rule = recordedUnder tenant source := by
  rcases List.mem_map.mp ((getDeduplications_perm hne).subset hrule) with ⟨source, hsource, heq⟩
  refine ⟨source, hsource, heq, ?_⟩
  rw [← heq]
  exact recordedUnder_congr (rated_same _ source).1.id

/-- A nonempty overview lists each expected rule once, with the numbers of its events, exactly
when the keys and the types of events are unambiguous. -/
theorem listsOnce_iff
    (hfree : forall rule, rule ∈ env.customRules tenant -> rule.isFreeOf "null")
    (hdistinct : ((env.providers tenant).map Provider.typeAndId).Nodup)
    (hne : env.getDeduplications tenant results ≠ []) :
    ListsOnce env tenant results <-> Unambiguous env tenant := by
  constructor
  · intro h
    refine unambiguous_of_perm hfree ((cleared_perm hne).symm.trans h.listed) ?_
    intro rule event hrule hevent
    rcases List.mem_map.mp (h.listed.symm.subset hrule) with ⟨result, hresult, hcleared⟩
    rcases exists_of_shown hne hresult with ⟨source, _, hrated, hsame⟩
    have hcount := h.ingested result hresult
    rw [hsame, ← hrated] at hcount
    have hid : rule.id = result.id := by
      rw [← hcleared]
      rfl
    rw [recordedUnder_congr hid, hsame] at hevent
    exact (ingested_eq_length_iff results source).mp hcount event hevent
  · intro h
    have hperm := finalDeduplications_perm_expected hfree hdistinct h
    have hlinked := (notLinked_iff hfree).mpr h.notLinked
    have hcounts : forall source, source ∈ env.finalDeduplications tenant ->
        (rated env (getAllDeduplicationStats results) source).ingested =
          (recordedUnder tenant source).length :=
      fun source hsource => (ingested_eq_length_iff results source).mpr
        fun event hevent => h.types source event (hperm.subset hsource) hevent
    refine ⟨?_, getDeduplications_defaultsFirst hne, ?_, ?_⟩
    · refine (cleared_perm hne).trans ?_
      rw [List.map_congr_left fun rule hrule => cleared_of_final hlinked hrule, List.map_id']
      exact hperm
    · intro rule hrule
      rcases exists_of_shown hne hrule with ⟨source, hsource, hrated, hsame⟩
      rw [hsame, ← hrated]
      exact hcounts source hsource
    · intro rule hrule
      rcases exists_of_shown hne hrule with ⟨source, hsource, hrated, hsame⟩
      rw [hsame, ← hrated]
      exact rated_dedupRatio results (hcounts source hsource)

end

/-!
## Two tenants
-/

theorem getDeduplications_ne_nil {env : Environment} {tenant : Tenant} {clock : Clock}
    (results : Results tenant.events clock)
    (h : 2 ≤ (env.finalDeduplications tenant).length) :
    env.getDeduplications tenant results ≠ [] := by
  rw [getDeduplications_eq]
  have hlength : 2 ≤ (((env.finalDeduplications tenant).map
      (rated env (getAllDeduplicationStats results))).mergeSort shownFirst).length := by
    rw [List.length_mergeSort, List.length_map]
    exact h
  rcases hsorted : ((env.finalDeduplications tenant).map
    (rated env (getAllDeduplicationStats results))).mergeSort shownFirst with
      _ | ⟨rule, _ | ⟨next, rest⟩⟩
  · rw [hsorted] at hlength
    exact absurd hlength (Nat.not_succ_le_zero 1)
  · rw [hsorted] at hlength
    exact absurd hlength (Nat.not_succ_le_self 1)
  · exact List.cons_ne_nil _ _

def grafana : Provider where
  id := none
  displayName := "Grafana"
  type := "grafana"
  tags := ["alert"]
  defaultFingerprintFields := some ["fingerprint"]

/-- What `uuid5` gives for the names that are asked for. -/
def knownIds : List (String × String) :=
  [("None_None", "452ae650-35c0-5f06-88be-ec86484302e8"),
    ("None_grafana", "5e369022-ca4c-58db-af89-8832687c5c5a"),
    ("g1_grafana", "c23ac251-d90b-5eb6-b310-d97a24129c82")]

def grafanaCode : Environment where
  available := [grafana]
  lower := fun text => String.ofList (text.toList.map Char.toLower)
  uuid5 := fun name => (knownIds.lookup name).getD name
  customDeduplicationEnabled := true
  deduplicationDistributionEnabled := true

def ruleFor (providerType : String) (providerId : Option String) : AlertDeduplicationRule where
  id := "00000000-0000-0000-0000-000000000001"
  name := "by host"
  description := "one alert for each host"
  providerId := providerId
  providerType := providerType
  lastUpdated := "2025-01-01 00:00:00"
  lastUpdatedBy := "keep"
  createdAt := "2025-01-01 00:00:00"
  createdBy := "keep"
  enabled := true
  fingerprintFields := ["host"]
  fullDeduplication := false
  ignoreFields := []
  isProvisioned := false

theorem firstEvent_onHour : (0 : Int) % hour = 0 := rfl

/-- An event without a duplicate, under the id of the catch-all rule. -/
def firstEvent : AlertDeduplicationEvent :=
  ⟨"452ae650-35c0-5f06-88be-ec86484302e8", "none", 0, none, none, firstEvent_onHour⟩

theorem midnight_ordered : (0 : Int) ≤ 0 := Int.le_refl 0

def midnight : Clock := ⟨0, 0, midnight_ordered⟩

/-- Alerts come from a linked provider and without a provider; one of the two has a rule. -/
def tenantWith (rule : AlertDeduplicationRule) : Tenant where
  installed := []
  linked := [("grafana", some "g1"), ("keep", none)]
  rules := [rule]
  events := [firstEvent]
  distinct := List.nodup_singleton _

def statsOf (rule : AlertDeduplicationRule) : Results (tenantWith rule).events midnight where
  allTime := [(firstEvent.allTimeKey, 1)]
  alertsLast24Hours := [(firstEvent.hourlyKey, 1)]
  allTime_perm := List.Perm.refl _
  alertsLast24Hours_perm := List.Perm.refl _

theorem isFreeOf_ruleFor {providerType : String} {providerId : Option String}
    (htype : Separated.occursIn "null" providerType = false)
    (hid : forall id, providerId = some id -> Separated.occursIn "null" id = false) :
    forall rule, rule ∈ grafanaCode.customRules (tenantWith (ruleFor providerType providerId)) ->
      rule.isFreeOf "null" := by
  intro rule hrule
  rw [List.mem_singleton.mp hrule]
  exact ⟨htype, hid⟩

theorem distinctProviders (rule : AlertDeduplicationRule) :
    ((grafanaCode.providers (tenantWith rule)).map Provider.typeAndId).Nodup := by
  show [("grafana", some "g1"), ("keep", none)].Nodup
  decide

/-- The rule is for the linked provider. -/
theorem grafanaRule_listsOnce :
    ListsOnce grafanaCode (tenantWith (ruleFor "grafana" (some "g1")))
      (statsOf (ruleFor "grafana" (some "g1"))) := by
  refine (listsOnce_iff (isFreeOf_ruleFor (by decide) ?_) (distinctProviders _)
    (getDeduplications_ne_nil _ (by decide))).mpr ⟨?_, ?_, ?_, ?_⟩
  · intro id hid
    rw [← Option.some.inj hid]
    decide
  · intro rule provider hrule hprovider
    rw [List.mem_singleton.mp hrule]
    revert provider
    decide
  · intro rule hrule
    rw [List.mem_singleton.mp hrule]
    decide
  · intro rule provider hrule _ hkey
    rw [List.mem_singleton.mp hrule] at hkey
    exact absurd hkey (by decide)
  · intro rule event _ hevent
    rw [List.mem_singleton.mp (List.mem_of_mem_filter hevent)]
    exact Or.inr rfl

/-- The rule is for the alerts without a provider. -/
theorem keepRule_not_listsOnce :
    (forall rule, rule ∈ grafanaCode.customRules (tenantWith (ruleFor "keep" none)) ->
      rule.isFreeOf "null") ∧
    ((grafanaCode.providers (tenantWith (ruleFor "keep" none))).map Provider.typeAndId).Nodup ∧
    grafanaCode.getDeduplications (tenantWith (ruleFor "keep" none))
      (statsOf (ruleFor "keep" none)) ≠ [] ∧
    ¬ ListsOnce grafanaCode (tenantWith (ruleFor "keep" none)) (statsOf (ruleFor "keep" none)) := by
  have hid : forall id, (none : Option String) = some id -> Separated.occursIn "null" id = false :=
    fun _ h => nomatch h
  have hfree := isFreeOf_ruleFor (show Separated.occursIn "null" "keep" = false by decide) hid
  have hne := getDeduplications_ne_nil (statsOf (ruleFor "keep" none))
    (show 2 ≤ (grafanaCode.finalDeduplications _).length by decide)
  refine ⟨hfree, distinctProviders _, hne, ?_⟩
  intro h
  refine not_perm_of_linked hfree ?_ ((cleared_perm hne).symm.trans h.listed)
  intro hnotLinked
  exact hnotLinked (by decide) (linkedProvider [grafana] ("keep", none))
    (List.mem_cons_of_mem _ List.mem_cons_self) rfl

end Overview
end Deduplication
end KeepGateway
