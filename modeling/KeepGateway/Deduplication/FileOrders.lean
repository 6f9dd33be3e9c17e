import KeepGateway.Deduplication.DirectoryProvisioning
import KeepGateway.Lib.FirstMatch

/-!
# The order of the files

A run over the files of a directory in closed form, and when its result follows the files in
every order.
-/

namespace KeepGateway
namespace Deduplication
namespace Directory

variable {κ σ : Type}

/-!
## What a run is to come to
-/

/-- Provider names are pairwise distinct, and so are the names of rules. -/
structure Valid (files : List (File κ)) : Prop where
  names : (files.map File.name).Nodup
  ruleNames : ((files.flatMap File.rules).map Prod.fst).Nodup

instance (files : List (File κ)) : Decidable (Valid files) :=
  decidable_of_iff ((files.map File.name).Nodup ∧ ((files.flatMap File.rules).map Prod.fst).Nodup)
    ⟨fun h => ⟨h.1, h.2⟩, fun h => ⟨h.names, h.ruleNames⟩⟩

/-- What a row of `provider` says, apart from its id. -/
def Provider.content (row : Provider σ) : String × String × σ × Bool × Bool :=
  (row.name, row.type, row.validatedScopes, row.pullingEnabled, row.provisioned)

section Claims

variable (s : Services κ σ) (tenantId : String)

/-- The provisioned providers and rules are those of the files, each rule with its own provider,
and nothing is left for a run over the files in any order. -/
structure Follows (files : List (File κ)) (t : Tables σ) : Prop where
  providers : ((t.providers.filter Provider.provisioned).map fun row =>
    (row.name, row.type)).Perm (files.map fun file => (file.name, file.type))
  rules : ((t.rules.provisioned tenantId).map fun row => some row.view).Perm
    ((files.flatMap File.rules).map fun rule => entryView t.getInstalledProviders rule.2)
  again : forall order, order.Perm files -> provisionProviders s tenantId t order = t

/-- In whatever order the files are listed, the run follows them, with one result but for the
ids of new providers. -/
def FollowsFiles (files : List (File κ)) (t : Tables σ) : Prop :=
  forall order, order.Perm files ->
    Follows s tenantId files (provisionProviders s tenantId t order) ∧
      ((provisionProviders s tenantId t order).providers.map Provider.content).Perm
        ((provisionProviders s tenantId t files).providers.map Provider.content)

/-- A run over the files of a directory, in the order of the list. -/
def step (t : Tables σ) (files : List (File κ)) : Option (Tables σ) :=
  if Valid files then some (provisionProviders s tenantId t files) else none

/-- Earlier runs of the provisioning, with other files, lead here. -/
def Reachable (t : Tables σ) : Prop :=
  exists start : Tables σ, start.providers = [] ∧ start.rules.provisioned tenantId = [] ∧
    Run.Reachable (step s tenantId) start t

end Claims

def IsNew (t : Tables σ) (file : File κ) : Prop := t.getProviderByName file.name = none

instance (t : Tables σ) (file : File κ) : Decidable (IsNew t file) :=
  inferInstanceAs (Decidable (t.getProviderByName file.name = none))

/-- Providers that are there have the types of their files; where one is new, a later update
finds nothing to change in it; and the rules are those of one new provider, or are there
already. -/
structure Settled (s : Services κ σ) (tenantId : String) (files : List (File κ)) (t : Tables σ) :
    Prop where
  types : forall file, file ∈ files -> forall row, row ∈ t.providers ->
    row.name = file.name -> row.type = file.type
  quiet : forall file, file ∈ files -> IsNew t file ->
    s.validateScopes file.type file.authentication = s.noScopes ∧ file.pulls = true
  alone : forall file, file ∈ files -> IsNew t file -> file.rules ≠ [] ->
    forall other, other ∈ files -> other.rules ≠ [] -> other.name = file.name
  there : (forall file, file ∈ files -> IsNew t file -> file.rules = []) ->
    ((t.rules.provisioned tenantId).map fun row => some row.view).Perm
      ((files.flatMap File.rules).map fun rule => entryView t.getInstalledProviders rule.2)

/-!
## Installed providers by name
-/

theorem getProviderByName_eq {t : Tables σ} {name : String} {row : Provider σ} :
    t.getProviderByName name = some row <-> row ∈ t.providers ∧ row.name = name :=
  FirstMatch.find?_key t.names

theorem installedProvider_eq {t : Tables σ} {name : String} {row : Provider σ}
    (h : row ∈ t.providers) (hname : row.name = name) :
    installedProvider t.getInstalledProviders name = some ⟨toString row.id, row.type, name⟩ := by
  have hnames : (t.getInstalledProviders.map InstalledProvider.name).Nodup := by
    unfold Tables.getInstalledProviders
    rw [List.map_map]
    exact t.names
  refine Latest.lookup_index.mpr ⟨?_, rfl⟩
  rw [Latest.latest_eq_self hnames, ← hname]
  exact List.mem_map_of_mem (f := fun row : Provider σ =>
    (⟨toString row.id, row.type, row.name⟩ : InstalledProvider)) h

theorem entryView_eq {t : Tables σ} {row : Provider σ} {entry : Entry}
    (h : row ∈ t.providers) (hname : row.name = entry.providerName) :
    entryView t.getInstalledProviders entry =
      some (ruleView (entry.name, ⟨entry.config, toString row.id, row.type⟩)) := by
  unfold entryView
  rw [installedProvider_eq h hname]
  rfl

/-!
## One file
-/

section Files

variable {s : Services κ σ} {tenantId : String}

/-- The row after the update by the file of its name. -/
def settle (s : Services κ σ) (file : File κ) (row : Provider σ) : Provider σ :=
  if row.name = file.name then row.update s file else row

/-- The provisioned rules have pairwise distinct names. -/
def RuleNames (tenantId : String) (db : Database) : Prop :=
  ((db.provisioned tenantId).map AlertDeduplicationRule.name).Nodup

/-- The provisioned rules are those of a file, with a provider of that id and type. -/
def RulesOf (tenantId : String) (file : File κ) (row : Provider σ) (db : Database) : Prop :=
  ((db.provisioned tenantId).map AlertDeduplicationRule.view).Perm
    (file.deduplicationRules.map fun rule =>
      ruleView (rule.1, ⟨rule.2, toString row.id, row.type⟩))

theorem RulesOf.ruleNames {file : File κ} {row : Provider σ} {db : Database}
    (h : RulesOf tenantId file row db) (hnames : (file.rules.map Prod.fst).Nodup) :
    RuleNames tenantId db := by
  have hperm := h.map View.name
  rw [List.map_map, List.map_map] at hperm
  unfold File.rules at hnames
  rw [List.map_map] at hnames
  exact hperm.nodup_iff.mpr hnames

/-- A run over the rules of a file leaves these rules. -/
theorem rulesOf_run {t : Tables σ} {file : File κ} {row : Provider σ}
    (hrow : row ∈ t.providers) (hname : row.name = file.name)
    (hnames : (file.rules.map Prod.fst).Nodup) (hdb : RuleNames tenantId t.rules) :
    exists db, provisionDeduplicationRules tenantId t.getInstalledProviders file.rules t.rules =
      .ok db ∧ RulesOf tenantId file row db := by
  have hfound : forall rule, rule ∈ file.rules ->
      exists provider, installedProvider t.getInstalledProviders rule.2.providerName =
        some provider := by
    intro rule hrule
    rcases List.mem_map.mp hrule with ⟨entry, -, heq⟩
    rw [← heq]
    exact ⟨_, installedProvider_eq hrow hname⟩
  rcases enrich_total hfound with ⟨enriched, hok, hkeys, hviews⟩
  have hdistinct : Dict.Distinct enriched := by
    unfold Dict.Distinct
    rw [hkeys]
    exact hnames
  rcases loop_provisions tenantId hdistinct t.rules with ⟨db, hloop, hprovisioned⟩
  refine ⟨db, bind_eq_ok.mpr ⟨enriched, hok, hloop⟩, ?_⟩
  have hclaimed : ((claimed tenantId (enriched.map Prod.fst) t.rules).map
      AlertDeduplicationRule.name).Nodup := hdb.sublist (List.filter_sublist.map _)
  have hperm := hprovisioned.perm_views hdistinct
  rw [Latest.shadowed_eq_nil hclaimed] at hperm
  have henriched : enriched.map ruleView = file.deduplicationRules.map fun rule =>
      ruleView (rule.1, ⟨rule.2, toString row.id, row.type⟩) := by
    refine List.map_injective_iff.mpr (fun _ _ h => Option.some.inj h) ?_
    rw [List.map_map, List.map_map]
    refine (hviews ?_).trans ?_
    · intro rule hrule
      rcases List.mem_map.mp hrule with ⟨entry, -, heq⟩
      rw [← heq]
    · unfold File.rules
      rw [List.map_map]
      refine List.map_congr_left fun rule _ => ?_
      exact entryView_eq hrow hname
  unfold RulesOf
  rw [← henriched]
  exact hperm

theorem isNew_iff {t : Tables σ} {file : File κ} :
    IsNew t file <-> file.name ∉ t.providers.map Provider.name := by
  refine ⟨Tables.not_mem_names, fun h => List.find?_eq_none.mpr fun row hrow hname => h ?_⟩
  exact List.mem_map.mpr ⟨row, hrow, beq_iff_eq.mp hname⟩

theorem rules_eq_nil {file : File κ} : file.rules = [] <-> file.deduplicationRules = [] := by
  unfold File.rules
  exact List.map_eq_nil_iff

variable (s tenantId) in
/-- A file whose provider is there updates it. -/
theorem provisionFile_of_some {t : Tables σ} {file : File κ} {row : Provider σ}
    (h : t.getProviderByName file.name = some row) :
    (provisionFile s tenantId t file).providers = t.providers.map (settle s file) ∧
      (provisionFile s tenantId t file).nextId = t.nextId ∧
      (provisionFile s tenantId t file).rules = t.rules := by
  unfold provisionFile
  split
  · rename_i found hfound
    rw [h] at hfound
    cases hfound
    rcases getProviderByName_eq.mp h with ⟨hrow, hname⟩
    refine ⟨List.map_congr_left fun other hother => ?_, rfl, rfl⟩
    unfold Tables.updatedRow settle
    rcases Classical.em (other = row) with heq | hne
    · rw [heq, if_pos rfl, if_pos hname]
    · have hid : other.id ≠ row.id := fun hid =>
        hne (List.inj_on_of_nodup_map t.distinct hother hrow hid)
      have hother' : other.name ≠ file.name := fun heq =>
        hne (List.inj_on_of_nodup_map t.names hother hrow (heq.trans hname.symm))
      rw [if_neg hid, if_neg hother']
  · rename_i hnone
    rw [h] at hnone
    cases hnone

variable (s) in
/-- A new file installs its provider, and leaves its own rules if it has any. -/
theorem provisionFile_of_none {t : Tables σ} {file : File κ} (h : IsNew t file)
    (hnames : (file.rules.map Prod.fst).Nodup) (hdb : RuleNames tenantId t.rules) :
    (provisionFile s tenantId t file).providers = t.providers ++ [installed s file t.nextId] ∧
      (provisionFile s tenantId t file).nextId = t.nextId + 1 ∧
      (file.rules = [] -> (provisionFile s tenantId t file).rules = t.rules) ∧
      (file.rules ≠ [] -> RulesOf tenantId file (installed s file t.nextId)
        (provisionFile s tenantId t file).rules) := by
  unfold provisionFile
  split
  · rename_i row hrow
    rw [h] at hrow
    cases hrow
  · rename_i hnone
    simp only
    split
    · rename_i hempty
      refine ⟨rfl, rfl, fun _ => rfl, fun hne => ?_⟩
      exact absurd (rules_eq_nil.mpr (List.isEmpty_iff.mp hempty)) hne
    · rename_i hsome
      have hthere : installed s file t.nextId ∈ (t.installProvider s file hnone).providers :=
        List.mem_append_right _ List.mem_cons_self
      rcases rulesOf_run hthere rfl hnames hdb with ⟨db, hok, hrules⟩
      rw [hok]
      refine ⟨rfl, rfl, fun hnil => ?_, fun _ => hrules⟩
      exact absurd (List.isEmpty_iff.mpr (rules_eq_nil.mp hnil)) hsome

/-!
## All files
-/

/-- The row after the update by the file of its name, if there is one. -/
def settleAll (s : Services κ σ) (files : List (File κ)) (row : Provider σ) : Provider σ :=
  match files.find? fun file => file.name == row.name with
  | some file => row.update s file
  | none => row

/-- The rows of new providers, from the next fresh id on. -/
def newRows (s : Services κ σ) : Nat -> List (File κ) -> List (Provider σ)
  | _, [] => []
  | nextId, file :: rest => installed s file nextId :: newRows s (nextId + 1) rest

def newFiles (t : Tables σ) (files : List (File κ)) : List (File κ) :=
  files.filter fun file => decide (IsNew t file)

theorem settleAll_of_not_mem {files : List (File κ)} {row : Provider σ}
    (h : row.name ∉ files.map File.name) : settleAll s files row = row := by
  unfold settleAll
  rw [List.find?_eq_none.mpr fun file hfile hname =>
    h (List.mem_map.mpr ⟨file, hfile, beq_iff_eq.mp hname⟩)]

theorem settleAll_cons (file : File κ) {rest : List (File κ)} (hfresh : file.name ∉ rest.map File.name)
    (row : Provider σ) : settleAll s rest (settle s file row) = settleAll s (file :: rest) row := by
  unfold settle
  rcases Classical.em (row.name = file.name) with heq | hne
  · rw [if_pos heq]
    have hupdated : (row.update s file).name ∉ rest.map File.name := by
      show row.name ∉ _
      rw [heq]
      exact hfresh
    rw [settleAll_of_not_mem hupdated]
    have hfound : (file.name == row.name) = true := beq_iff_eq.mpr heq.symm
    unfold settleAll
    rw [List.find?_cons, hfound]
  · rw [if_neg hne]
    have hother : (file.name == row.name) = false := beq_eq_false_iff_ne.mpr fun h => hne h.symm
    unfold settleAll
    rw [List.find?_cons, hother]

/-- What the loop over the files leaves. -/
structure AfterLoop (s : Services κ σ) (tenantId : String) (files : List (File κ))
    (t t' : Tables σ) : Prop where
  providers : t'.providers =
    t.providers.map (settleAll s files) ++ newRows s t.nextId (newFiles t files)
  nextId : t'.nextId = t.nextId + (newFiles t files).length
  kept : (forall file, file ∈ files -> IsNew t file -> file.rules = []) -> t'.rules = t.rules
  last : (exists file, file ∈ files ∧ IsNew t file ∧ file.rules ≠ []) ->
    exists file row, file ∈ files ∧ IsNew t file ∧ file.rules ≠ [] ∧ row ∈ t'.providers ∧
      row.name = file.name ∧ row.type = file.type ∧ RulesOf tenantId file row t'.rules
  ruleNames : RuleNames tenantId t'.rules

/-- Other files of the loop find the same providers after the first one. -/
theorem isNew_tail {t t' : Tables σ} {file other : File κ}
    (hnames : forall name, name ∈ t'.providers.map Provider.name <->
      name ∈ t.providers.map Provider.name ∨ name = file.name)
    (hne : other.name ≠ file.name) : IsNew t' other <-> IsNew t other := by
  rw [isNew_iff, isNew_iff, hnames]
  exact ⟨fun h hmem => h (.inl hmem), fun h hmem => hmem.elim h hne⟩

theorem newFiles_tail {t t' : Tables σ} {file : File κ} {rest : List (File κ)}
    (hnames : forall name, name ∈ t'.providers.map Provider.name <->
      name ∈ t.providers.map Provider.name ∨ name = file.name)
    (hfresh : file.name ∉ rest.map File.name) : newFiles t' rest = newFiles t rest := by
  refine List.filter_congr fun other hother => decide_eq_decide.mpr (isNew_tail hnames ?_)
  exact fun heq => hfresh (List.mem_map.mpr ⟨other, hother, heq⟩)

/-- Each file's own rules have distinct names. -/
def OwnRuleNames (files : List (File κ)) : Prop :=
  forall file, file ∈ files -> (file.rules.map Prod.fst).Nodup

theorem settle_name (file : File κ) (row : Provider σ) : (settle s file row).name = row.name := by
  unfold settle
  split
  · rfl
  · rfl

theorem AfterLoop.afterUpdate {file : File κ} {rest : List (File κ)} {t t₁ t' : Tables σ}
    (hfresh : file.name ∉ rest.map File.name) (hold : ¬ IsNew t file)
    (hproviders : t₁.providers = t.providers.map (settle s file)) (hnext : t₁.nextId = t.nextId)
    (hsame : t₁.rules = t.rules) (h : AfterLoop s tenantId rest t₁ t') :
    AfterLoop s tenantId (file :: rest) t t' := by
  have hnames : forall name, name ∈ t₁.providers.map Provider.name <->
      name ∈ t.providers.map Provider.name ∨ name = file.name := by
    intro name
    have hmap : t₁.providers.map Provider.name = t.providers.map Provider.name := by
      rw [hproviders, List.map_map]
      exact List.map_congr_left fun row _ => settle_name file row
    have hthere := not_not.mp fun hmem => hold (isNew_iff.mpr hmem)
    rw [hmap]
    exact ⟨.inl, fun h => h.elim (fun hmem => hmem) fun heq => heq ▸ hthere⟩
  have htail : forall other, other ∈ rest -> (IsNew t₁ other <-> IsNew t other) :=
    fun other hother => isNew_tail hnames fun heq =>
      hfresh (List.mem_map.mpr ⟨other, hother, heq⟩)
  have hnewFiles : newFiles t (file :: rest) = newFiles t₁ rest := by
    rw [newFiles_tail hnames hfresh]
    exact List.filter_cons_of_neg fun hnew => hold (of_decide_eq_true hnew)
  refine ⟨?_, ?_, fun hkept => ?_, fun hlast => ?_, h.ruleNames⟩
  · rw [h.providers, hproviders, hnewFiles, hnext, List.map_map]
    congr 1
    exact List.map_congr_left fun row _ => settleAll_cons file hfresh row
  · rw [h.nextId, hnext, hnewFiles]
  · rw [h.kept fun other hother hnew =>
      hkept other (List.mem_cons_of_mem file hother) ((htail other hother).mp hnew), hsame]
  · rcases hlast with ⟨other, hother, hnew, hrules⟩
    have hrest : other ∈ rest := by
      rcases List.mem_cons.mp hother with heq | hrest
      · rw [heq] at hnew
        exact absurd hnew hold
      · exact hrest
    rcases h.last ⟨other, hrest, (htail other hrest).mpr hnew, hrules⟩ with
      ⟨found, row, hfound, hfoundNew, hrow⟩
    exact ⟨found, row, List.mem_cons_of_mem file hfound, (htail found hfound).mp hfoundNew, hrow⟩

theorem AfterLoop.afterInstall {file : File κ} {rest : List (File κ)} {t t₁ t' : Tables σ}
    (hfresh : file.name ∉ rest.map File.name) (hnew : IsNew t file)
    (hproviders : t₁.providers = t.providers ++ [installed s file t.nextId])
    (hnext : t₁.nextId = t.nextId + 1) (hkept : file.rules = [] -> t₁.rules = t.rules)
    (hown : file.rules ≠ [] -> RulesOf tenantId file (installed s file t.nextId) t₁.rules)
    (h : AfterLoop s tenantId rest t₁ t') : AfterLoop s tenantId (file :: rest) t t' := by
  have hnames : forall name, name ∈ t₁.providers.map Provider.name <->
      name ∈ t.providers.map Provider.name ∨ name = file.name := by
    intro name
    rw [hproviders, List.map_append, List.mem_append]
    exact or_congr Iff.rfl List.mem_singleton
  have htail : forall other, other ∈ rest -> (IsNew t₁ other <-> IsNew t other) :=
    fun other hother => isNew_tail hnames fun heq =>
      hfresh (List.mem_map.mpr ⟨other, hother, heq⟩)
  have hnewFiles : newFiles t (file :: rest) = file :: newFiles t₁ rest := by
    rw [newFiles_tail hnames hfresh]
    exact List.filter_cons_of_pos (decide_eq_true hnew)
  have hinstalled : settleAll s rest (installed s file t.nextId) = installed s file t.nextId :=
    settleAll_of_not_mem hfresh
  have hrows : t'.providers = t.providers.map (settleAll s (file :: rest)) ++
      newRows s t.nextId (newFiles t (file :: rest)) := by
    rw [h.providers, hproviders, hnewFiles, hnext, List.map_append, List.map_singleton, hinstalled,
      List.append_assoc]
    congr 1
    refine List.map_congr_left fun row hrow => ?_
    rw [← settleAll_cons file hfresh row]
    unfold settle
    rw [if_neg fun heq => isNew_iff.mp hnew (List.mem_map.mpr ⟨row, hrow, heq⟩)]
  refine ⟨hrows, ?_, fun hnone => ?_, fun hlast => ?_, h.ruleNames⟩
  · rw [h.nextId, hnext, hnewFiles, List.length_cons]
    omega
  · rw [h.kept fun other hother hother' =>
      hnone other (List.mem_cons_of_mem file hother) ((htail other hother).mp hother'),
      hkept (hnone file List.mem_cons_self hnew)]
  · rcases Classical.em (exists other, other ∈ rest ∧ IsNew t₁ other ∧ other.rules ≠ []) with
      hlater | hlater
    · rcases h.last hlater with ⟨found, row, hfound, hfoundNew, hrow⟩
      exact ⟨found, row, List.mem_cons_of_mem file hfound, (htail found hfound).mp hfoundNew,
        hrow⟩
    · -- No later file has rules to provision: those of this one stay.
      have hsame : t'.rules = t₁.rules := h.kept fun other hother hother' =>
        Classical.byContradiction fun hrules => hlater ⟨other, hother, hother', hrules⟩
      rcases hlast with ⟨other, hother, hotherNew, hrules⟩
      rcases List.mem_cons.mp hother with heq | hrest
      · rw [heq] at hrules
        refine ⟨file, installed s file t.nextId, List.mem_cons_self, hnew, hrules, ?_, rfl, rfl, ?_⟩
        · rw [hrows, hnewFiles]
          exact List.mem_append_right _ List.mem_cons_self
        · rw [hsame]
          exact hown hrules
      · exact absurd ⟨other, hrest, (htail other hrest).mpr hotherNew, hrules⟩ hlater

variable (s) in
theorem afterLoop {files : List (File κ)} {t : Tables σ} (hnames : (files.map File.name).Nodup)
    (hrules : OwnRuleNames files) (hdb : RuleNames tenantId t.rules) :
    AfterLoop s tenantId files t (files.foldl (provisionFile s tenantId) t) := by
  induction files generalizing t with
  | nil =>
      refine ⟨?_, rfl, fun _ => rfl, fun h => ?_, hdb⟩
      · rw [List.map_congr_left fun row _ => settleAll_of_not_mem (by simp)]
        simp [newFiles, newRows]
      · rcases h with ⟨file, hfile, -⟩
        cases hfile
  | cons file rest ih =>
      rcases List.nodup_cons.mp hnames with ⟨hfresh, hrest⟩
      have hrules' : OwnRuleNames rest := fun other hother =>
        hrules other (List.mem_cons_of_mem file hother)
      have hown := hrules file List.mem_cons_self
      rw [List.foldl_cons]
      cases hfound : t.getProviderByName file.name with
      | some row =>
          rcases provisionFile_of_some s tenantId hfound with ⟨hproviders, hnext, hsame⟩
          have hold : ¬ IsNew t file := fun hnew => by
            unfold IsNew at hnew
            rw [hfound] at hnew
            cases hnew
          exact AfterLoop.afterUpdate hfresh hold hproviders hnext hsame
            (ih hrest hrules' (hsame ▸ hdb))
      | none =>
          rcases provisionFile_of_none s hfound hown hdb with ⟨hproviders, hnext, hkept, hrulesOf⟩
          have hdb' : RuleNames tenantId (provisionFile s tenantId t file).rules := by
            rcases Classical.em (file.rules = []) with hnil | hsome
            · rw [hkept hnil]
              exact hdb
            · exact (hrulesOf hsome).ruleNames hown
          exact AfterLoop.afterInstall hfresh hfound hproviders hnext hkept hrulesOf
            (ih hrest hrules' hdb')

end Files

end Directory
end Deduplication
end KeepGateway
