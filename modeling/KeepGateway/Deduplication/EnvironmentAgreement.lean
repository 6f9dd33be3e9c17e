import KeepGateway.Deduplication.Reconciliation

/-!
# The provisioned rules and the environment

When the provisioned rules of a tenant are the entries of `KEEP_PROVIDERS` after a run.
-/

namespace KeepGateway
namespace Deduplication

open Latest (index latest shadowed)

variable (tenantId : String) (installed : List InstalledProvider) (mapping : Mapping)

/-- The table matches the environment: one provisioned rule for each entry, the other rules
as they were, and nothing left for a second run. -/
structure MatchesEnvironment (db db' : Database) : Prop where
  rules : ((db'.provisioned tenantId).map fun row => some row.view).Perm
    (mapping.entries.map (entryView installed))
  untouched : db'.rules.filter (fun row => !(row.isProvisionedOf tenantId)) =
    db.rules.filter fun row => !(row.isProvisionedOf tenantId)
  settled : provisionDeduplicationRulesFromEnv tenantId installed mapping db' = .ok db'

def Reconciles (db : Database) : Prop :=
  exists db', provisionDeduplicationRulesFromEnv tenantId installed mapping db = .ok db' ∧
    MatchesEnvironment tenantId installed mapping db db'

/-- Of each name, the provisioned rows in front of the last one are the entries that a
later entry hides.  Without an entry there is no provisioned row. -/
def HiddenAgree (db : Database) : Prop :=
  if mapping.entries = [] then db.provisioned tenantId = []
  else
    ((shadowed AlertDeduplicationRule.name
        (claimed tenantId (mapping.entries.map Entry.name) db)).map
      fun row => some row.view).Perm
      ((shadowed Entry.name mapping.entries).map (entryView installed))

variable {tenantId installed mapping}

theorem mem_keys_index {name : String} :
    name ∈ (index Entry.name mapping.entries).map Prod.fst <->
      name ∈ mapping.entries.map Entry.name := by
  refine Iff.trans ?_ Latest.mem_keys_latest
  constructor
  · intro h
    rcases List.mem_map.mp h with ⟨⟨key, entry⟩, hmem, rfl⟩
    rcases Latest.lookup_index.mp ((Latest.distinct_index _).lookup.mpr hmem) with ⟨hlatest, hkey⟩
    exact List.mem_map.mpr ⟨entry, hlatest, hkey⟩
  · intro h
    rcases List.mem_map.mp h with ⟨entry, hlatest, hkey⟩
    have hlookup := Latest.lookup_index.mpr ⟨hlatest, hkey⟩
    exact List.mem_map.mpr ⟨_, (Latest.distinct_index _).lookup.mp hlookup, rfl⟩

theorem claimed_congr {names names' : List String} (h : forall name, name ∈ names <-> name ∈ names')
    (db : Database) : claimed tenantId names db = claimed tenantId names' db := by
  unfold claimed
  apply List.filter_congr
  intro row _
  rw [Bool.eq_iff_iff, List.contains_iff_mem, List.contains_iff_mem]
  exact h row.name

/-- The dictionary of rules, enriched. -/
structure EnrichedAs (installed : List InstalledProvider) (mapping : Mapping)
    (rules : List (String × EnrichedRule)) : Prop where
  ok : enrichWithProvidersInfo installed (index Entry.name mapping.entries) = .ok rules
  distinct : Dict.Distinct rules
  names : forall name, name ∈ rules.map Prod.fst <-> name ∈ mapping.entries.map Entry.name
  views : (mapping.entries.map (entryView installed)).Perm
    ((shadowed Entry.name mapping.entries).map (entryView installed) ++
      rules.map fun rule => some (ruleView rule))

theorem entry_provider {entry : Entry} (h : entry ∈ mapping.entries) :
    exists provider, provider ∈ mapping.providers ∧ entry.providerName = provider.1 := by
  rcases List.mem_flatMap.mp h with ⟨provider, hprovider, hentry⟩
  rcases List.mem_map.mp hentry with ⟨rule, _, rfl⟩
  exact ⟨provider, hprovider, rfl⟩

theorem exists_enrichedAs (hinstalled : forall provider, provider ∈ mapping.providers ->
      exists found, installedProvider installed provider.1 = some found) :
    exists rules, EnrichedAs installed mapping rules := by
  have hindex : forall rule, rule ∈ index Entry.name mapping.entries ->
      rule.2 ∈ latest Entry.name mapping.entries ∧ rule.2.name = rule.1 := fun rule hrule =>
    Latest.lookup_index.mp ((Latest.distinct_index _).lookup.mpr hrule)
  have hproviders : forall rule, rule ∈ index Entry.name mapping.entries ->
      exists found, installedProvider installed rule.2.providerName = some found := by
    intro rule hrule
    rcases entry_provider ((Latest.latest_sublist _).subset (hindex rule hrule).1) with
      ⟨provider, hprovider, hname⟩
    rw [hname]
    exact hinstalled provider hprovider
  rcases enrich_total hproviders with ⟨rules, hok, hkeys, hviews⟩
  refine ⟨rules, hok, ?_, ?_, ?_⟩
  · unfold Dict.Distinct
    rw [hkeys]
    exact Latest.distinct_index _
  · intro name
    rw [hkeys]
    exact mem_keys_index
  · have hsplit := (Latest.perm_latest_shadowed Entry.name mapping.entries).map
      (entryView installed)
    have hlatest := (Latest.perm_index Entry.name mapping.entries).map
      (entryView installed)
    rw [List.map_append] at hsplit
    rw [List.map_map] at hlatest
    rw [hviews fun rule hrule => (hindex rule hrule).2]
    exact (hsplit.trans (hlatest.symm.append_right _)).trans List.perm_append_comm

variable (tenantId) in
theorem run_of_entries {rules : List (String × EnrichedRule)}
    (hrules : EnrichedAs installed mapping rules) (hne : mapping.entries ≠ []) (db : Database) :
    exists db', provisionDeduplicationRulesFromEnv tenantId installed mapping db = .ok db' ∧
      Provisioned tenantId rules db db' := by
  rcases loop_provisions tenantId hrules.distinct db with ⟨db', hloop, hdb'⟩
  refine ⟨db', ?_, hdb'⟩
  have hsome : getDeduplicationRulesToProvision mapping =
      some (index Entry.name mapping.entries) :=
    if_neg fun h => hne (Latest.index_eq_nil h)
  unfold provisionDeduplicationRulesFromEnv
  rw [hsome]
  exact bind_eq_ok.mpr ⟨rules, hrules.ok, hloop⟩

/-- With all providers installed, a run makes the table match the environment exactly when
the rows and the entries that it hides agree. -/
theorem reconciles_iff (db : Database)
    (hinstalled : forall provider, provider ∈ mapping.providers ->
      exists found, installedProvider installed provider.1 = some found) :
    Reconciles tenantId installed mapping db <-> HiddenAgree tenantId installed mapping db := by
  rcases Classical.em (mapping.entries = []) with hempty | hne
  · -- Nothing is provisioned: the run returns at once.
    have hrun : forall other, provisionDeduplicationRulesFromEnv tenantId installed mapping other =
        .ok other := by
      intro other
      unfold provisionDeduplicationRulesFromEnv getDeduplicationRulesToProvision
      rw [hempty]
      rfl
    unfold HiddenAgree
    rw [if_pos hempty]
    constructor
    · rintro ⟨db', hdb', hmatches⟩
      rw [hrun db] at hdb'
      cases hdb'
      have hperm := hmatches.rules
      rw [hempty] at hperm
      exact List.map_eq_nil_iff.mp hperm.eq_nil
    · intro hnil
      refine ⟨db, hrun db, ⟨?_, rfl, hrun db⟩⟩
      rw [hnil, hempty]
      exact List.Perm.refl _
  · rcases exists_enrichedAs hinstalled with ⟨rules, hrules⟩
    rcases run_of_entries tenantId hrules hne db with ⟨db', hrun, hdb'⟩
    have hviews := (hdb'.perm_views hrules.distinct).map some
    rw [List.map_map, List.map_append, List.map_map, List.map_map,
      claimed_congr hrules.names] at hviews
    unfold HiddenAgree
    rw [if_neg hne]
    constructor
    · rintro ⟨other, hother, hmatches⟩
      rw [hrun] at hother
      cases hother
      exact (List.perm_append_right_iff _).mp
        ((hviews.symm.trans hmatches.rules).trans hrules.views)
    · intro hhidden
      refine ⟨db', hrun, ?_, hdb'.untouched, ?_⟩
      · exact (hviews.trans (hhidden.append_right _)).trans hrules.views.symm
      · rcases run_of_entries tenantId hrules hne db' with ⟨db'', hagain, hdb''⟩
        rw [hagain, hdb'.again hrules.distinct hdb'']

/-!
## Runs
-/

def prometheus : List InstalledProvider := [⟨"1", "prometheus", "prom"⟩]

def oneRule : Mapping where
  providers := [("prom", ⟨"prometheus", [("by source", ⟨none, some ["source"], none, none⟩)]⟩)]
  distinct := List.nodup_singleton _
  distinctRules := by
    intro provider h
    rw [List.mem_singleton.mp h]
    exact List.nodup_singleton _

def emptyTable : Database where
  rules := []
  nextId := 0
  distinct := List.nodup_nil
  fresh := Database.noRows_fresh

theorem oneRule_reconciles :
    Reconciles "keep" prometheus oneRule emptyTable <->
      HiddenAgree "keep" prometheus oneRule emptyTable :=
  reconciles_iff emptyTable (by
    intro provider h
    rw [List.mem_singleton.mp h]
    exact ⟨⟨"1", "prometheus", "prom"⟩, by decide⟩)

def noRules : Mapping where
  providers := [("prom", ⟨"prometheus", []⟩)]
  distinct := List.nodup_singleton _
  distinctRules := by
    intro provider h
    rw [List.mem_singleton.mp h]
    exact List.nodup_nil

/-- A table with a rule that an earlier environment provisioned. -/
def staleTable : Database where
  rules := [AlertDeduplicationRule.create 0 "keep" "by source"
    ⟨⟨none, some ["source"], none, none⟩, "1", "prometheus"⟩]
  nextId := 1
  distinct := List.nodup_singleton _
  fresh := by
    intro row h
    rw [List.mem_singleton.mp h]
    exact Nat.zero_lt_one

/-- Without a rule in the environment the provisioned rule is left. -/
theorem stale_rule_left : ¬ Reconciles "keep" prometheus noRules staleTable := by
  rintro ⟨db', hdb', hmatches⟩
  have hrun : provisionDeduplicationRulesFromEnv "keep" prometheus noRules staleTable =
      .ok staleTable := rfl
  rw [hrun] at hdb'
  cases hdb'
  have hlength := hmatches.rules.length_eq
  revert hlength
  decide

end Deduplication
end KeepGateway
