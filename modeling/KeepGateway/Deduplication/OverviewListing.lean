import KeepGateway.Deduplication.Overview
import KeepGateway.Deduplication.RecordedEvents
import KeepGateway.Lib.Spans
import Mathlib.Data.Rat.Defs

/-!
# What the overview lists

When the overview of a tenant lists its custom rules and the default rules, each one once.
-/

namespace KeepGateway
namespace Deduplication
namespace Overview

open Hours

/-!
## The rules that are expected
-/

/-- The provider that a rule is for. -/
def DeduplicationRuleDto.provider (rule : DeduplicationRuleDto) : String × Option String :=
  (rule.providerType, rule.providerId)

/-- The type and the id of a provider. -/
def Provider.typeAndId (provider : Provider) : String × Option String :=
  (provider.type, provider.id)

/-- The alerts that have no provider. -/
def noProvider : String × Option String := ("keep", none)

/-- A rule without its statistics. -/
def DeduplicationRuleDto.cleared (rule : DeduplicationRuleDto) : DeduplicationRuleDto :=
  { rule with ingested := 0, dedupRatio := 0, distribution := some emptyDistribution }

/-- Some of the rules are for the provider. -/
def hasRule (rules : List DeduplicationRuleDto) (provider : String × Option String) : Bool :=
  rules.any fun rule => rule.provider == provider

section

variable (env : Environment) (tenant : Tenant)

/-- The custom rules of the providers and of no provider. -/
def expectedCustom : List DeduplicationRuleDto :=
  (env.customRules tenant).filter fun rule =>
    rule.provider == noProvider ||
      rule.provider ∈ (env.providers tenant).map Provider.typeAndId

/-- The catch-all rule, unless there is a custom rule for no provider. -/
def catchAlls : List DeduplicationRuleDto :=
  if hasRule (env.customRules tenant) noProvider then [] else [env.catchAll]

/-- The default rules of the providers that have no custom rule. -/
def providerDefaults : List DeduplicationRuleDto :=
  (env.providers tenant).filterMap fun provider =>
    if hasRule (env.customRules tenant) provider.typeAndId then none
    else env.defaultFor provider

def expectedDefault : List DeduplicationRuleDto :=
  catchAlls env tenant ++ providerDefaults env tenant

def expected : List DeduplicationRuleDto :=
  expectedDefault env tenant ++ expectedCustom env tenant

/-- The events recorded under the id of a rule. -/
def recordedUnder (rule : DeduplicationRuleDto) : List AlertDeduplicationEvent :=
  tenant.events.filter fun event => some event.deduplicationRuleId == rule.id

def isDuplicate (event : AlertDeduplicationEvent) : Bool :=
  event.deduplicationType == "full" || event.deduplicationType == "partial"

/-- The part of the events that are duplicates, in percent. -/
def ratio (events : List AlertDeduplicationEvent) : Rat :=
  if events = [] then 0 else 100 * (events.countP isDuplicate : Rat) / events.length

/-- The overview lists the rules that are expected, each one once and the default ones first,
with the numbers of the events recorded under their ids. -/
structure ListsOnce {clock : Clock} (results : Results tenant.events clock) : Prop where
  listed : ((env.getDeduplications tenant results).map DeduplicationRuleDto.cleared).Perm
    (expected env tenant)
  defaultsFirst : (env.getDeduplications tenant results).Pairwise fun a b =>
    b.default = true -> a.default = true
  ingested : forall rule, rule ∈ env.getDeduplications tenant results ->
    rule.ingested = (recordedUnder tenant rule).length
  dedupRatio : forall rule, rule ∈ env.getDeduplications tenant results ->
    rule.dedupRatio = ratio (recordedUnder tenant rule)

/-- The text occurs neither in the type nor in the id of the provider of a rule. -/
def DeduplicationRuleDto.isFreeOf (text : String) (rule : DeduplicationRuleDto) : Prop :=
  Separated.occursIn text rule.providerType = false ∧
    forall id, rule.providerId = some id -> Separated.occursIn text id = false

/-- The keys tell the providers apart, a rule for alerts without a provider stands alone, and the
events are of the three types that are counted. -/
structure Unambiguous : Prop where
  keys : forall rule provider, rule ∈ env.customRules tenant ->
    provider ∈ env.providers tenant ->
      keyOf rule.providerType rule.providerId = keyOf provider.type provider.id ->
        rule.provider = provider.typeAndId
  keep : forall rule, rule ∈ env.customRules tenant ->
    keyOf rule.providerType rule.providerId = keepNone -> rule.providerId = none
  notLinked : forall rule provider, rule ∈ env.customRules tenant ->
    provider ∈ env.providers tenant ->
      keyOf rule.providerType rule.providerId = keepNone ->
        keyOf provider.type provider.id ≠ keepNone
  types : forall rule event, rule ∈ expected env tenant -> event ∈ recordedUnder tenant rule ->
    isDuplicate event = true ∨ event.deduplicationType = "none"

end

/-!
## Keys
-/

section

variable {env : Environment} {tenant : Tenant}

theorem keyOf_toList (providerType : String) (providerId : Option String) :
    (keyOf providerType providerId).toList =
      providerType.toList ++ '_' :: (shown providerId).toList := by
  unfold keyOf
  rw [String.toList_append, String.toList_append, List.append_assoc]
  rfl

theorem customKey_of_free {rule : DeduplicationRuleDto} (h : rule.isFreeOf "null") :
    customKey rule = keyOf rule.providerType rule.providerId := by
  have hnone : ¬ "null".toList <:+: (keyOf rule.providerType rule.providerId).toList := by
    rw [keyOf_toList]
    intro hinfix
    rcases Splits.infix_or_infix (by decide) hinfix with htype | hid
    · exact of_decide_eq_false h.1 htype
    · cases hprovider : rule.providerId with
      | none =>
          rw [hprovider] at hid
          revert hid
          decide
      | some id =>
          rw [hprovider] at hid
          exact of_decide_eq_false (h.2 id hprovider) hid
  exact if_neg fun hoccurs => hnone (of_decide_eq_true hoccurs)

/-- With no id, the key of no provider is that of its type only. -/
theorem providerType_of_keepNone {rule : DeduplicationRuleDto}
    (hkey : keyOf rule.providerType rule.providerId = keepNone) (hid : rule.providerId = none) :
    rule.provider = noProvider := by
  have htype : rule.providerType = "keep" := by
    rw [hid] at hkey
    have hchars := congrArg String.toList hkey
    rw [keyOf_toList] at hchars
    exact String.toList_inj.mp (List.append_cancel_right (hchars.trans rfl))
  unfold DeduplicationRuleDto.provider
  rw [htype, hid]
  rfl

/-!
## The loop over the providers
-/

/-- What a provider adds to the list, with the dictionary as it is. -/
def added (env : Environment) (custom : List (String × List DeduplicationRuleDto))
    (provider : Provider) : List DeduplicationRuleDto :=
  match custom.lookup (keyOf provider.type provider.id) with
  | some rules => rules
  | none => (env.defaultFor provider).toList

theorem final_extend (rules : List DeduplicationRuleDto) (lists : Lists) :
    (lists.extend rules).final = lists.final ++ rules := by
  rcases lists with ⟨custom, own⟩
  cases own with
  | some own => rfl
  | none =>
      show ((Dict.set keepNone _ custom).lookup keepNone).getD [] = _
      rw [Dict.lookup_set_self]
      rfl

theorem own_extend (rules : List DeduplicationRuleDto) (lists : Lists) :
    (lists.extend rules).own = none <-> lists.own = none := by
  rcases lists with ⟨custom, own⟩
  cases own with
  | some own => simp [Lists.extend]
  | none => exact Iff.rfl

/-- Only the bucket that is the list itself may change. -/
theorem lookup_extend {rules : List DeduplicationRuleDto} {lists : Lists} {key : String}
    (h : lists.own = none -> key ≠ keepNone) :
    (lists.extend rules).custom.lookup key = lists.custom.lookup key := by
  rcases lists with ⟨custom, own⟩
  cases own with
  | some own => rfl
  | none => exact Dict.lookup_set_ne (Ne.symm (h rfl)) _ _

/-- The list gets longer by some rules, or stays as it is. -/
theorem addProvider_eq (env : Environment) (lists : Lists) (provider : Provider) :
    env.addProvider lists provider = lists.extend (added env lists.custom provider) ∨
      (env.addProvider lists provider = lists ∧ added env lists.custom provider = []) := by
  unfold Environment.addProvider added
  cases lists.custom.lookup (keyOf provider.type provider.id) with
  | some rules => exact Or.inl rfl
  | none =>
      cases env.defaultFor provider with
      | some rule => exact Or.inl rfl
      | none => exact Or.inr ⟨rfl, rfl⟩

theorem final_addProvider (env : Environment) (lists : Lists) (provider : Provider) :
    (env.addProvider lists provider).final =
      lists.final ++ added env lists.custom provider := by
  rcases addProvider_eq env lists provider with heq | ⟨heq, hnone⟩
  · rw [heq, final_extend]
  · rw [heq, hnone, List.append_nil]

theorem own_addProvider (env : Environment) (lists : Lists) (provider : Provider) :
    (env.addProvider lists provider).own = none <-> lists.own = none := by
  rcases addProvider_eq env lists provider with heq | ⟨heq, _⟩
  · rw [heq, own_extend]
  · rw [heq]

theorem lookup_addProvider {lists : Lists} {provider : Provider} {key : String}
    (h : lists.own = none -> key ≠ keepNone) :
    (env.addProvider lists provider).custom.lookup key = lists.custom.lookup key := by
  rcases addProvider_eq env lists provider with heq | ⟨heq, _⟩
  · rw [heq, lookup_extend h]
  · rw [heq]

/-- Where the list is no bucket of the dictionary or no provider has its key, each provider adds
what the dictionary at the start has for it. -/
theorem final_foldl {providers : List Provider} {lists : Lists}
    (h : lists.own = none -> forall provider, provider ∈ providers ->
      keyOf provider.type provider.id ≠ keepNone) :
    (providers.foldl env.addProvider lists).final =
      lists.final ++ providers.flatMap (added env lists.custom) := by
  induction providers generalizing lists with
  | nil => exact (List.append_nil _).symm
  | cons provider rest ih =>
      have hrest : (env.addProvider lists provider).own = none ->
          forall other, other ∈ rest -> keyOf other.type other.id ≠ keepNone := by
        intro hown other hmem
        exact h ((own_addProvider env lists provider).mp hown) other
          (List.mem_cons_of_mem _ hmem)
      have hsame : rest.flatMap (added env (env.addProvider lists provider).custom) =
          rest.flatMap (added env lists.custom) := by
        apply List.flatMap_congr
        intro other hmem
        unfold added
        rw [lookup_addProvider fun hown => h hown other (List.mem_cons_of_mem _ hmem)]
      rw [List.foldl_cons, ih hrest, hsame, final_addProvider, List.flatMap_cons,
        List.append_assoc]

theorem exists_final_foldl (env : Environment) (providers : List Provider) (lists : Lists) :
    exists more, (providers.foldl env.addProvider lists).final = lists.final ++ more := by
  induction providers generalizing lists with
  | nil => exact ⟨[], (List.append_nil _).symm⟩
  | cons provider rest ih =>
      rcases ih (env.addProvider lists provider) with ⟨more, hmore⟩
      refine ⟨added env lists.custom provider ++ more, ?_⟩
      rw [List.foldl_cons, hmore, final_addProvider, List.append_assoc]

theorem lookup_keepNone_addProvider {lists : Lists} (hown : lists.own = none)
    (h : lists.custom.lookup keepNone = some lists.final) (provider : Provider) :
    (env.addProvider lists provider).custom.lookup keepNone =
      some (env.addProvider lists provider).final := by
  rcases addProvider_eq env lists provider with heq | ⟨heq, _⟩
  · rw [heq]
    rcases lists with ⟨custom, own⟩
    cases hown
    show (Dict.set keepNone _ custom).lookup keepNone = _
    rw [final_extend]
    exact Dict.lookup_set_self _ _ _
  · rw [heq]
    exact h

/-- Where the list is the bucket of a provider, what it has at that provider is in it twice. -/
theorem final_doubled {providers : List Provider} {lists : Lists} (hown : lists.own = none)
    (hlookup : lists.custom.lookup keepNone = some lists.final)
    (hlinked : exists provider, provider ∈ providers ∧
      keyOf provider.type provider.id = keepNone) :
    exists twice more, lists.final ⊆ twice ∧
      (providers.foldl env.addProvider lists).final = twice ++ (twice ++ more) := by
  induction providers generalizing lists with
  | nil =>
      rcases hlinked with ⟨provider, hmem, _⟩
      exact absurd hmem List.not_mem_nil
  | cons provider rest ih =>
      rcases Classical.em (keyOf provider.type provider.id = keepNone) with hkey | hkey
      · rcases exists_final_foldl env rest (env.addProvider lists provider) with ⟨more, hmore⟩
        have hadded : added env lists.custom provider = lists.final := by
          unfold added
          rw [hkey, hlookup]
        refine ⟨lists.final, more, List.Subset.refl _, ?_⟩
        rw [List.foldl_cons, hmore, final_addProvider, hadded, List.append_assoc]
      · have hrest : exists other, other ∈ rest ∧ keyOf other.type other.id = keepNone := by
          rcases hlinked with ⟨other, hmem, hother⟩
          rcases List.mem_cons.mp hmem with heq | hmem
          · rw [heq] at hother
            exact absurd hother hkey
          · exact ⟨other, hmem, hother⟩
        rcases ih ((own_addProvider env lists provider).mpr hown)
          (lookup_keepNone_addProvider hown hlookup provider) hrest with ⟨twice, more, hsub, heq⟩
        refine ⟨twice, more, ?_, heq⟩
        rw [final_addProvider] at hsub
        exact List.Subset.trans (List.subset_append_left _ _) hsub

/-!
## The final list
-/

/-- The rules that a key leads to. -/
def filedUnder (env : Environment) (tenant : Tenant) (key : String) : List DeduplicationRuleDto :=
  Buckets.under customKey key (env.customRules tenant)

/-- The list before the loop. -/
def startRules (env : Environment) (tenant : Tenant) : List DeduplicationRuleDto :=
  if filedUnder env tenant keepNone = [] then [env.catchAll] else filedUnder env tenant keepNone

/-- The default rule of a provider whose key leads to no rules. -/
def missing (env : Environment) (tenant : Tenant) (provider : Provider) :
    List DeduplicationRuleDto :=
  if filedUnder env tenant (keyOf provider.type provider.id) = [] then
    (env.defaultFor provider).toList
  else []

theorem custom_start : (env.start tenant).custom =
    Buckets.fileAll customKey (env.customRules tenant) := by
  unfold Environment.start
  dsimp only
  split
  · rfl
  · rfl

theorem lookup_start (key : String) :
    (env.start tenant).custom.lookup key = Buckets.filled (filedUnder env tenant key) := by
  rw [custom_start]
  exact Buckets.lookup_fileAll customKey _ key

theorem own_start : (env.start tenant).own = none <-> filedUnder env tenant keepNone ≠ [] := by
  have hlookup := Buckets.lookup_fileAll customKey (env.customRules tenant) keepNone
  unfold Environment.start filedUnder
  dsimp only
  rw [hlookup]
  cases Buckets.under customKey keepNone (env.customRules tenant) with
  | nil => simp [Buckets.filled]
  | cons rule rest => simp [Buckets.filled]

theorem final_start : (env.start tenant).final = startRules env tenant := by
  have hlookup := Buckets.lookup_fileAll customKey (env.customRules tenant) keepNone
  unfold Environment.start startRules filedUnder
  dsimp only
  rw [hlookup]
  cases hunder : Buckets.under customKey keepNone (env.customRules tenant) with
  | nil => rfl
  | cons rule rest =>
      show (List.lookup keepNone (Buckets.fileAll customKey (env.customRules tenant))).getD [] = _
      rw [hlookup, hunder]
      rfl

theorem added_start (provider : Provider) :
    added env (env.start tenant).custom provider =
      filedUnder env tenant (keyOf provider.type provider.id) ++ missing env tenant provider := by
  unfold added missing
  rw [lookup_start]
  cases filedUnder env tenant (keyOf provider.type provider.id) with
  | nil => rfl
  | cons rule rest => exact (List.append_nil _).symm

/-- With a rule for alerts without a provider, no provider has its key. -/
def NotLinked (env : Environment) (tenant : Tenant) : Prop :=
  filedUnder env tenant keepNone ≠ [] -> forall provider, provider ∈ env.providers tenant ->
    keyOf provider.type provider.id ≠ keepNone

theorem finalDeduplications_perm (h : NotLinked env tenant) :
    (env.finalDeduplications tenant).Perm (startRules env tenant ++
      ((env.providers tenant).flatMap (fun provider =>
          filedUnder env tenant (keyOf provider.type provider.id)) ++
        (env.providers tenant).flatMap (missing env tenant))) := by
  unfold Environment.finalDeduplications
  rw [final_foldl fun hown => h (own_start.mp hown), final_start]
  apply List.Perm.append_left
  rw [List.flatMap_congr fun provider _ => added_start provider]
  exact (List.flatMap_append_perm _ _ _).symm

/-!
## Custom and default rules
-/

theorem default_of_custom {rule : DeduplicationRuleDto} (h : rule ∈ env.customRules tenant) :
    rule.default = false := by
  unfold Environment.customRules at h
  split at h
  · rcases List.mem_map.mp h with ⟨row, _, rfl⟩
    rfl
  · cases h

theorem cleared_of_custom {rule : DeduplicationRuleDto} (h : rule ∈ env.customRules tenant) :
    rule.cleared = rule := by
  unfold Environment.customRules at h
  split at h
  · rcases List.mem_map.mp h with ⟨row, _, rfl⟩
    rfl
  · cases h

theorem nodup_customRules : (env.customRules tenant).Nodup := by
  unfold Environment.customRules
  split
  · apply List.Nodup.of_map DeduplicationRuleDto.id
    rw [List.map_map]
    have hids : tenant.rules.map (DeduplicationRuleDto.id ∘ Environment.customRule) =
        (tenant.rules.map AlertDeduplicationRule.id).map some := by
      rw [List.map_map]
      rfl
    rw [hids]
    exact tenant.distinct.map (Option.some_injective _)
  · exact List.nodup_nil

/-- The default rule of a provider is a copy of that of a provider of the code. -/
theorem exists_of_defaultFor {provider : Provider} {rule : DeduplicationRuleDto}
    (h : env.defaultFor provider = some rule) :
    exists source, source ∈ env.available ∧ source.hasFingerprintFields = true ∧
      source.type = provider.type ∧ rule = env.copyFor provider (env.defaultRule source) := by
  rcases Option.map_eq_some_iff.mp h with ⟨original, hlookup, hcopy⟩
  rcases Latest.lookup_index.mp hlookup with ⟨hmem, htype⟩
  rcases List.mem_map.mp ((Latest.latest_sublist _).subset hmem) with ⟨source, hsource, heq⟩
  rw [← heq] at htype hcopy
  exact ⟨source, (List.mem_filter.mp hsource).1, (List.mem_filter.mp hsource).2, htype,
    hcopy.symm⟩

theorem default_copyFor (provider : Provider) (rule : DeduplicationRuleDto) :
    (env.copyFor provider rule).default = rule.default := by
  unfold Environment.copyFor
  dsimp only
  split
  · rfl
  · rfl

theorem cleared_copyFor {provider : Provider} {rule : DeduplicationRuleDto}
    (h : rule.cleared = rule) : (env.copyFor provider rule).cleared = env.copyFor provider rule := by
  rw [← h]
  unfold Environment.copyFor
  dsimp only
  split
  · rfl
  · rfl

theorem default_of_defaultFor {provider : Provider} {rule : DeduplicationRuleDto}
    (h : env.defaultFor provider = some rule) : rule.default = true := by
  rcases exists_of_defaultFor h with ⟨source, _, _, _, rfl⟩
  rw [default_copyFor]
  rfl

theorem cleared_of_defaultFor {provider : Provider} {rule : DeduplicationRuleDto}
    (h : env.defaultFor provider = some rule) : rule.cleared = rule := by
  rcases exists_of_defaultFor h with ⟨source, _, _, _, rfl⟩
  exact cleared_copyFor rfl

theorem default_of_expectedDefault {rule : DeduplicationRuleDto}
    (h : rule ∈ expectedDefault env tenant) : rule.default = true := by
  rcases List.mem_append.mp h with hcatch | hprovider
  · unfold catchAlls at hcatch
    split at hcatch
    · cases hcatch
    · rw [List.mem_singleton.mp hcatch]
      rfl
  · rcases List.mem_filterMap.mp hprovider with ⟨provider, _, heq⟩
    split at heq
    · cases heq
    · exact default_of_defaultFor heq

/-- The custom rules of a list. -/
def custom (rules : List DeduplicationRuleDto) : List DeduplicationRuleDto :=
  rules.filter fun rule => !rule.default

theorem custom_expected (env : Environment) (tenant : Tenant) :
    custom (expected env tenant) = expectedCustom env tenant := by
  have hdefault : (expectedDefault env tenant).filter (fun rule => !rule.default) = [] := by
    apply List.filter_eq_nil_iff.mpr
    intro rule hrule
    rw [default_of_expectedDefault hrule]
    exact Bool.false_ne_true
  have hcustom : (expectedCustom env tenant).filter (fun rule => !rule.default) =
      expectedCustom env tenant := by
    apply List.filter_eq_self.mpr
    intro rule hrule
    rw [default_of_custom (List.mem_of_mem_filter hrule)]
    rfl
  unfold custom expected
  rw [List.filter_append, hdefault, hcustom, List.nil_append]

theorem nodup_custom_expected : (custom (expected env tenant)).Nodup := by
  rw [custom_expected]
  exact nodup_customRules.filter _

/-!
## The list is the expected one
-/

section

variable (hfree : forall rule, rule ∈ env.customRules tenant -> rule.isFreeOf "null")

include hfree

theorem mem_filedUnder {key : String} {rule : DeduplicationRuleDto} :
    rule ∈ filedUnder env tenant key <-> rule ∈ env.customRules tenant ∧
      keyOf rule.providerType rule.providerId = key := by
  unfold filedUnder
  rw [Buckets.mem_under]
  apply and_congr_right
  intro hrule
  rw [customKey_of_free (hfree rule hrule)]

theorem notLinked_iff : NotLinked env tenant <-> forall rule provider,
    rule ∈ env.customRules tenant -> provider ∈ env.providers tenant ->
      keyOf rule.providerType rule.providerId = keepNone ->
        keyOf provider.type provider.id ≠ keepNone := by
  constructor
  · intro h rule provider hrule hprovider hkey
    exact h (List.ne_nil_of_mem ((mem_filedUnder hfree).mpr ⟨hrule, hkey⟩)) provider hprovider
  · intro h hne provider hprovider
    rcases List.exists_mem_of_ne_nil _ hne with ⟨rule, hmem⟩
    rcases (mem_filedUnder hfree).mp hmem with ⟨hrule, hkey⟩
    exact h rule provider hrule hprovider hkey

theorem filedUnder_provider (h : Unambiguous env tenant) {provider : Provider}
    (hprovider : provider ∈ env.providers tenant) :
    filedUnder env tenant (keyOf provider.type provider.id) =
      Buckets.under DeduplicationRuleDto.provider provider.typeAndId (env.customRules tenant) := by
  apply List.filter_congr
  intro rule hrule
  rw [customKey_of_free (hfree rule hrule), decide_eq_decide]
  constructor
  · exact h.keys rule provider hrule hprovider
  · intro heq
    rcases Prod.mk.inj heq with ⟨htype, hid⟩
    rw [htype, hid]

theorem filedUnder_keepNone (h : Unambiguous env tenant) :
    filedUnder env tenant keepNone =
      Buckets.under DeduplicationRuleDto.provider noProvider (env.customRules tenant) := by
  apply List.filter_congr
  intro rule hrule
  rw [customKey_of_free (hfree rule hrule), decide_eq_decide]
  constructor
  · intro hkey
    exact providerType_of_keepNone hkey (h.keep rule hrule hkey)
  · intro heq
    rcases Prod.mk.inj heq with ⟨htype, hid⟩
    rw [htype, hid]
    rfl

end

theorem hasRule_iff {rules : List DeduplicationRuleDto} {provider : String × Option String} :
    hasRule rules provider = true <->
      Buckets.under DeduplicationRuleDto.provider provider rules ≠ [] := by
  unfold hasRule
  rw [ne_eq, Buckets.under_eq_nil, List.any_eq_true]
  simp only [beq_iff_eq, not_forall, not_not, exists_prop]

/-- The buckets of the providers and of no provider hold the custom rules that are expected. -/
theorem expectedCustom_perm
    (hdistinct : ((env.providers tenant).map Provider.typeAndId).Nodup)
    (hfresh : Buckets.under DeduplicationRuleDto.provider noProvider (env.customRules tenant) ≠ [] ->
      noProvider ∉ (env.providers tenant).map Provider.typeAndId) :
    (Buckets.under DeduplicationRuleDto.provider noProvider (env.customRules tenant) ++
      (env.providers tenant).flatMap fun provider => Buckets.under DeduplicationRuleDto.provider
        provider.typeAndId (env.customRules tenant)).Perm (expectedCustom env tenant) := by
  have hkeys : ((env.providers tenant).flatMap fun provider =>
      Buckets.under DeduplicationRuleDto.provider provider.typeAndId (env.customRules tenant)) =
        ((env.providers tenant).map Provider.typeAndId).flatMap fun key =>
          Buckets.under DeduplicationRuleDto.provider key (env.customRules tenant) := by
    rw [List.flatMap_map]
  rw [hkeys]
  rcases Classical.em (Buckets.under DeduplicationRuleDto.provider noProvider
    (env.customRules tenant) = []) with hnone | hsome
  · rw [hnone, List.nil_append]
    refine (Buckets.perm_flatMap_under hdistinct _).trans (List.Perm.of_eq ?_)
    apply List.filter_congr
    intro rule hrule
    have hne := Buckets.under_eq_nil.mp hnone rule hrule
    rw [beq_eq_false_iff_ne.mpr hne, Bool.false_or, decide_eq_decide]
  · have hnodup := List.nodup_cons.mpr ⟨hfresh hsome, hdistinct⟩
    have hperm := @Buckets.perm_flatMap_under _ _ _ DeduplicationRuleDto.provider _ hnodup
      (env.customRules tenant)
    rw [List.flatMap_cons] at hperm
    refine hperm.trans (List.Perm.of_eq ?_)
    apply List.filter_congr
    intro rule _
    rw [Bool.eq_iff_iff]
    simp only [decide_eq_true_eq, List.mem_cons, Bool.or_eq_true, beq_iff_eq]

theorem noProvider_notMem (h : Unambiguous env tenant)
    (hne : Buckets.under DeduplicationRuleDto.provider noProvider (env.customRules tenant) ≠ []) :
    noProvider ∉ (env.providers tenant).map Provider.typeAndId := by
  intro hmem
  rcases List.mem_map.mp hmem with ⟨provider, hprovider, heq⟩
  rcases List.exists_mem_of_ne_nil _ hne with ⟨rule, hrule⟩
  rcases Buckets.mem_under.mp hrule with ⟨hrule, hfor⟩
  rcases Prod.mk.inj heq with ⟨htype, hid⟩
  rcases Prod.mk.inj hfor with ⟨hruleType, hruleId⟩
  refine h.notLinked rule provider hrule hprovider ?_ ?_
  · rw [hruleType, hruleId]
    rfl
  · rw [htype, hid]
    rfl

theorem startRules_eq (h : filedUnder env tenant keepNone =
    Buckets.under DeduplicationRuleDto.provider noProvider (env.customRules tenant)) :
    startRules env tenant = catchAlls env tenant ++
      Buckets.under DeduplicationRuleDto.provider noProvider (env.customRules tenant) := by
  unfold startRules catchAlls
  rw [h]
  rcases Classical.em (Buckets.under DeduplicationRuleDto.provider noProvider
    (env.customRules tenant) = []) with hnone | hsome
  · rw [if_pos hnone, if_neg fun hhas => hasRule_iff.mp hhas hnone, hnone]
    rfl
  · rw [if_neg hsome, if_pos (hasRule_iff.mpr hsome)]
    rfl

theorem flatMap_missing
    (hfree : forall rule, rule ∈ env.customRules tenant -> rule.isFreeOf "null")
    (h : Unambiguous env tenant) :
    (env.providers tenant).flatMap (missing env tenant) = providerDefaults env tenant := by
  unfold providerDefaults
  rw [List.filterMap_eq_flatMap_toList]
  apply List.flatMap_congr
  intro provider hprovider
  unfold missing
  rw [filedUnder_provider hfree h hprovider]
  rcases Classical.em (Buckets.under DeduplicationRuleDto.provider provider.typeAndId
    (env.customRules tenant) = []) with hnone | hsome
  · rw [if_pos hnone, if_neg fun hhas => hasRule_iff.mp hhas hnone]
  · rw [if_neg hsome, if_pos (hasRule_iff.mpr hsome)]
    rfl

theorem finalDeduplications_perm_expected
    (hfree : forall rule, rule ∈ env.customRules tenant -> rule.isFreeOf "null")
    (hdistinct : ((env.providers tenant).map Provider.typeAndId).Nodup)
    (h : Unambiguous env tenant) :
    (env.finalDeduplications tenant).Perm (expected env tenant) := by
  have hfiled := List.flatMap_congr fun provider hprovider =>
    @filedUnder_provider env tenant hfree h provider hprovider
  refine (finalDeduplications_perm ((notLinked_iff hfree).mpr h.notLinked)).trans ?_
  rw [startRules_eq (filedUnder_keepNone hfree h), hfiled, flatMap_missing hfree h]
  unfold expected expectedDefault
  rw [List.append_assoc, List.append_assoc]
  apply List.Perm.append_left
  rw [← List.append_assoc]
  exact List.perm_append_comm.trans
    ((expectedCustom_perm hdistinct (noProvider_notMem h)).append_left _)

/-!
## The list is no other one
-/

theorem mem_custom {rules : List DeduplicationRuleDto} {rule : DeduplicationRuleDto} :
    rule ∈ custom rules <-> rule ∈ rules ∧ rule.default = false := by
  unfold custom
  rw [List.mem_filter, Bool.not_eq_true']

/-- Where the list is the bucket of a provider, a custom rule is in it twice. -/
theorem not_perm_of_linked
    (hfree : forall rule, rule ∈ env.customRules tenant -> rule.isFreeOf "null")
    (h : ¬ NotLinked env tenant) :
    ¬ ((env.finalDeduplications tenant).map DeduplicationRuleDto.cleared).Perm
      (expected env tenant) := by
  intro hperm
  unfold NotLinked at h
  push Not at h
  rcases h with ⟨hfiled, hlinked⟩
  have hown := own_start.mpr hfiled
  have hfinal : (env.start tenant).final = filedUnder env tenant keepNone := by
    rw [final_start]
    exact if_neg hfiled
  have hlookup : (env.start tenant).custom.lookup keepNone = some (env.start tenant).final := by
    rw [lookup_start, hfinal]
    cases hrules : filedUnder env tenant keepNone with
    | nil => exact absurd hrules hfiled
    | cons first rest => rfl
  rcases List.exists_mem_of_ne_nil _ hfiled with ⟨rule, hrule⟩
  rcases final_doubled hown hlookup hlinked with ⟨twice, more, hsub, hdoubled⟩
  have hcustom := ((mem_filedUnder hfree).mp hrule).1
  have hmem : rule ∈ custom (twice.map DeduplicationRuleDto.cleared) := by
    refine mem_custom.mpr ⟨?_, default_of_custom hcustom⟩
    refine List.mem_map.mpr ⟨rule, hsub ?_, cleared_of_custom hcustom⟩
    rw [hfinal]
    exact hrule
  have hnodup : (custom ((env.finalDeduplications tenant).map
      DeduplicationRuleDto.cleared)).Nodup := (hperm.filter _).nodup_iff.mpr nodup_custom_expected
  unfold Environment.finalDeduplications custom at hnodup
  rw [hdoubled, List.map_append, List.map_append, List.filter_append, List.filter_append] at hnodup
  exact List.disjoint_of_nodup_append hnodup hmem (List.mem_append_left _ hmem)

theorem cleared_of_final (h : NotLinked env tenant) {rule : DeduplicationRuleDto}
    (hrule : rule ∈ env.finalDeduplications tenant) : rule.cleared = rule := by
  have hfiled : forall key, rule ∈ filedUnder env tenant key -> rule.cleared = rule :=
    fun key hmem => cleared_of_custom (Buckets.mem_under.mp hmem).1
  rcases List.mem_append.mp ((finalDeduplications_perm h).subset hrule) with hstart | hadded
  · unfold startRules at hstart
    split at hstart
    · rw [List.mem_singleton.mp hstart]
      rfl
    · exact hfiled keepNone hstart
  · rcases List.mem_append.mp hadded with hmem | hmem
    · rcases List.mem_flatMap.mp hmem with ⟨provider, _, hmem⟩
      exact hfiled _ hmem
    · rcases List.mem_flatMap.mp hmem with ⟨provider, _, hmem⟩
      unfold missing at hmem
      split at hmem
      · exact cleared_of_defaultFor (Option.mem_toList.mp hmem)
      · cases hmem

theorem mem_final_of_filed (h : NotLinked env tenant) {rule : DeduplicationRuleDto}
    (hrule : rule ∈ filedUnder env tenant keepNone ∨ exists provider,
      provider ∈ env.providers tenant ∧
        rule ∈ filedUnder env tenant (keyOf provider.type provider.id)) :
    rule ∈ env.finalDeduplications tenant := by
  refine (finalDeduplications_perm h).symm.subset ?_
  rcases hrule with hkeep | ⟨provider, hprovider, hfiled⟩
  · apply List.mem_append_left
    unfold startRules
    rw [if_neg (List.ne_nil_of_mem hkeep)]
    exact hkeep
  · exact List.mem_append_right _ (List.mem_append_left _
      (List.mem_flatMap.mpr ⟨provider, hprovider, hfiled⟩))

/-- Two providers do not share a custom rule that is in the list once. -/
theorem eq_of_nodup (h : NotLinked env tenant)
    (hnodup : (custom (env.finalDeduplications tenant)).Nodup) {rule : DeduplicationRuleDto}
    {provider other : Provider} (hprovider : provider ∈ env.providers tenant)
    (hother : other ∈ env.providers tenant)
    (hrule : rule ∈ filedUnder env tenant (keyOf provider.type provider.id))
    (hruleOther : rule ∈ filedUnder env tenant (keyOf other.type other.id)) :
    provider = other := by
  have hdefault := default_of_custom (Buckets.mem_under.mp hrule).1
  have hnodup := ((finalDeduplications_perm h).filter _).nodup_iff.mp hnodup
  rw [List.filter_append, List.filter_append, List.filter_flatMap] at hnodup
  exact Buckets.eq_of_nodup_flatMap hnodup.of_append_right.of_append_left hprovider hother
    (mem_custom.mpr ⟨hrule, hdefault⟩) (mem_custom.mpr ⟨hruleOther, hdefault⟩)

/-- What has to be said of the custom rules where each one that is expected is listed once. -/
theorem unambiguous_of_perm
    (hfree : forall rule, rule ∈ env.customRules tenant -> rule.isFreeOf "null")
    (hperm : ((env.finalDeduplications tenant).map DeduplicationRuleDto.cleared).Perm
      (expected env tenant))
    (htypes : forall rule event, rule ∈ expected env tenant -> event ∈ recordedUnder tenant rule ->
      isDuplicate event = true ∨ event.deduplicationType = "none") :
    Unambiguous env tenant := by
  have hlinked : NotLinked env tenant :=
    by_contra fun hnot => not_perm_of_linked hfree hnot hperm
  have hcleared : (env.finalDeduplications tenant).map DeduplicationRuleDto.cleared =
      env.finalDeduplications tenant := by
    rw [List.map_congr_left fun rule hrule => cleared_of_final hlinked hrule, List.map_id']
  rw [hcleared] at hperm
  have hcustom := hperm.filter fun rule => !rule.default
  have hnodup := hcustom.nodup_iff.mpr nodup_custom_expected
  have hexpected : forall rule, rule ∈ env.customRules tenant ->
      rule ∈ env.finalDeduplications tenant -> rule.provider = noProvider ∨
        exists provider, provider ∈ env.providers tenant ∧
          provider.typeAndId = rule.provider := by
    intro rule hrule hfinal
    have hmem := hcustom.subset (mem_custom.mpr ⟨hfinal, default_of_custom hrule⟩)
    have hmem : rule ∈ custom (expected env tenant) := hmem
    rw [custom_expected] at hmem
    have hor := (List.mem_filter.mp hmem).2
    rw [Bool.or_eq_true, beq_iff_eq, decide_eq_true_eq, List.mem_map] at hor
    exact hor
  have hnotLinked := (notLinked_iff hfree).mp hlinked
  have hfiled : forall {rule key}, rule ∈ env.customRules tenant ->
      keyOf rule.providerType rule.providerId = key -> rule ∈ filedUnder env tenant key :=
    fun hrule hkey => (mem_filedUnder hfree).mpr ⟨hrule, hkey⟩
  refine ⟨?_, ?_, hnotLinked, htypes⟩
  · intro rule provider hrule hprovider hkey
    have hfinal := mem_final_of_filed hlinked (Or.inr ⟨provider, hprovider, hfiled hrule hkey⟩)
    rcases hexpected rule hrule hfinal with hnone | ⟨other, hother, hfor⟩
    · rcases Prod.mk.inj hnone with ⟨htype, hid⟩
      have hkeep : keyOf rule.providerType rule.providerId = keepNone := by
        rw [htype, hid]
        rfl
      exact absurd (hkey.symm.trans hkeep) (hnotLinked rule provider hrule hprovider hkeep)
    · rcases Prod.mk.inj hfor with ⟨htype, hid⟩
      have hsame : keyOf rule.providerType rule.providerId = keyOf other.type other.id := by
        rw [← htype, ← hid]
      rw [eq_of_nodup hlinked hnodup hprovider hother (hfiled hrule hkey) (hfiled hrule hsame)]
      exact hfor.symm
  · intro rule hrule hkey
    have hfinal := mem_final_of_filed hlinked (Or.inl (hfiled hrule hkey))
    rcases hexpected rule hrule hfinal with hnone | ⟨other, hother, hfor⟩
    · exact (Prod.mk.inj hnone).2
    · rcases Prod.mk.inj hfor with ⟨htype, hid⟩
      rw [← htype, ← hid] at hkey
      refine absurd hkey (hnotLinked rule other hrule hother ?_)
      rw [← htype, ← hid]
      exact hkey

end

end Overview
end Deduplication
end KeepGateway
