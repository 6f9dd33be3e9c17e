import KeepGateway.Deduplication.FileOrders

/-!
# The providers and rules of a directory

Which files a run follows in every order, from every state that earlier runs can lead to.
-/

namespace KeepGateway
namespace Deduplication
namespace Directory

variable {κ σ : Type} {s : Services κ σ} {tenantId : String}

/-!
## The whole run
-/

theorem settleAll_id (files : List (File κ)) (row : Provider σ) :
    (settleAll s files row).id = row.id := by
  unfold settleAll
  split
  · rfl
  · rfl

theorem settleAll_name (files : List (File κ)) (row : Provider σ) :
    (settleAll s files row).name = row.name := by
  unfold settleAll
  split
  · rfl
  · rfl

theorem settleAll_type (files : List (File κ)) (row : Provider σ) :
    (settleAll s files row).type = row.type := by
  unfold settleAll
  split
  · rfl
  · rfl

theorem settleAll_provisioned (files : List (File κ)) (row : Provider σ) :
    (settleAll s files row).provisioned = row.provisioned := by
  unfold settleAll
  split
  · rfl
  · rfl

theorem mem_newRows {nextId : Nat} {files : List (File κ)} {row : Provider σ}
    (h : row ∈ newRows s nextId files) :
    exists file id, file ∈ files ∧ nextId ≤ id ∧ row = installed s file id := by
  induction files generalizing nextId with
  | nil => cases h
  | cons file rest ih =>
      rcases List.mem_cons.mp h with heq | hrest
      · exact ⟨file, nextId, List.mem_cons_self, Nat.le_refl _, heq⟩
      · rcases ih hrest with ⟨other, id, hother, hle, heq⟩
        exact ⟨other, id, List.mem_cons_of_mem file hother, Nat.le_of_succ_le hle, heq⟩

/-- What the rows of new providers say does not depend on their ids. -/
theorem map_newRows {β : Type} {f : Provider σ -> β} {g : File κ -> β}
    (h : forall file id, f (installed s file id) = g file) (nextId : Nat)
    (files : List (File κ)) : (newRows s nextId files).map f = files.map g := by
  induction files generalizing nextId with
  | nil => rfl
  | cons file rest ih =>
      unfold newRows
      rw [List.map_cons, List.map_cons, h, ih]

theorem foldl_deleteProvider (gone : List (Provider σ)) (t : Tables σ) :
    (gone.foldl (fun t row => t.deleteProvider row.id) t).providers =
        t.providers.filter (fun row => gone.all fun other => row.id != other.id) ∧
      (gone.foldl (fun t row => t.deleteProvider row.id) t).nextId = t.nextId ∧
      (gone.foldl (fun t row => t.deleteProvider row.id) t).rules = t.rules := by
  induction gone generalizing t with
  | nil => simp
  | cons row rest ih =>
      rcases ih (t.deleteProvider row.id) with ⟨hproviders, hnext, hrules⟩
      refine ⟨?_, hnext, hrules⟩
      rw [List.foldl_cons, hproviders]
      show (t.providers.filter _).filter _ = _
      rw [List.filter_filter]
      refine List.filter_congr fun other _ => ?_
      rw [List.all_cons, Bool.and_comm]

def AllProvisioned (t : Tables σ) : Prop :=
  forall row, row ∈ t.providers -> row.provisioned = true

/-- The rows of the providers that have a file. -/
def listed (t : Tables σ) (files : List (File κ)) : List (Provider σ) :=
  t.providers.filter fun row => decide (row.name ∈ files.map File.name)

/-- The rows that are un-provisioned. -/
def outdated (t : Tables σ) (files : List (File κ)) : List (Provider σ) :=
  (t.providers.filter Provider.provisioned).filter fun row => row.name ∉ files.map File.name

theorem not_outdated {t : Tables σ} {files : List (File κ)} {row other : Provider σ}
    (hall : AllProvisioned t) (hrow : row ∈ t.providers) (hid : other.id = row.id) :
    ((outdated t files).all fun gone => other.id != gone.id) =
      decide (row.name ∈ files.map File.name) := by
  rw [Bool.eq_iff_iff, List.all_eq_true, decide_eq_true_iff]
  constructor
  · intro hkept
    refine Classical.byContradiction fun hmissing => ?_
    have hmem : row ∈ outdated t files := List.mem_filter.mpr
      ⟨List.mem_filter.mpr ⟨hrow, hall row hrow⟩, decide_eq_true hmissing⟩
    exact bne_iff_ne.mp (hkept row hmem) hid
  · intro hthere gone hmem
    rcases List.mem_filter.mp hmem with ⟨hmem, hmissing⟩
    refine bne_iff_ne.mpr fun heq => ?_
    have hsame := List.inj_on_of_nodup_map t.distinct hrow (List.mem_of_mem_filter hmem)
      (hid.symm.trans heq)
    rw [hsame] at hthere
    exact of_decide_eq_true hmissing hthere

/-- What a run over the files leaves. -/
structure AfterRun (s : Services κ σ) (tenantId : String) (files : List (File κ))
    (t t' : Tables σ) : Prop where
  providers : t'.providers =
    (listed t files).map (settleAll s files) ++ newRows s t.nextId (newFiles t files)
  nextId : t'.nextId = t.nextId + (newFiles t files).length
  kept : (forall file, file ∈ files -> IsNew t file -> file.rules = []) -> t'.rules = t.rules
  last : (exists file, file ∈ files ∧ IsNew t file ∧ file.rules ≠ []) ->
    exists file row, file ∈ files ∧ IsNew t file ∧ file.rules ≠ [] ∧ row ∈ t'.providers ∧
      row.name = file.name ∧ row.type = file.type ∧ RulesOf tenantId file row t'.rules
  ruleNames : RuleNames tenantId t'.rules

theorem Valid.ownRuleNames {files : List (File κ)} (h : Valid files) : OwnRuleNames files := by
  intro file hfile
  have hsub : file.rules.Sublist (files.flatMap File.rules) :=
    List.sublist_flatten_of_mem (List.mem_map_of_mem hfile)
  exact h.ruleNames.sublist (hsub.map Prod.fst)

variable (s) in
theorem afterRun {files : List (File κ)} {t : Tables σ} (hvalid : Valid files)
    (hall : AllProvisioned t) (hdb : RuleNames tenantId t.rules) :
    AfterRun s tenantId files t (provisionProviders s tenantId t files) := by
  have hloop := afterLoop s hvalid.names hvalid.ownRuleNames hdb
  rcases foldl_deleteProvider (outdated t files) (files.foldl (provisionFile s tenantId) t) with
    ⟨hproviders, hnext, hrules⟩
  have hrows : (provisionProviders s tenantId t files).providers =
      (listed t files).map (settleAll s files) ++ newRows s t.nextId (newFiles t files) := by
    refine hproviders.trans ?_
    rw [hloop.providers, List.filter_append, List.filter_map]
    congr 1
    · unfold listed
      congr 1
      refine List.filter_congr fun row hrow => ?_
      exact not_outdated hall hrow (settleAll_id files row)
    · refine List.filter_eq_self.mpr fun row hrow => List.all_eq_true.mpr fun gone hmem => ?_
      rcases mem_newRows hrow with ⟨file, id, -, hle, heq⟩
      have hlt := t.fresh gone (List.mem_of_mem_filter (List.mem_of_mem_filter hmem))
      rw [heq]
      refine bne_iff_ne.mpr fun hid => ?_
      have hid : id = gone.id := hid
      omega
  have hsame : (provisionProviders s tenantId t files).rules =
      (files.foldl (provisionFile s tenantId) t).rules := hrules
  refine ⟨hrows, hnext.trans hloop.nextId, fun h => hrules.trans (hloop.kept h), fun h => ?_, ?_⟩
  · rcases hloop.last h with ⟨file, row, hfile, hnew, hsome, hrow, hname, htype, hrulesOf⟩
    refine ⟨file, row, hfile, hnew, hsome, ?_, hname, htype, hsame ▸ hrulesOf⟩
    rw [hloop.providers] at hrow
    rw [hrows]
    rcases List.mem_append.mp hrow with hold | hinstalled
    · rcases List.mem_map.mp hold with ⟨old, hmem, heq⟩
      refine List.mem_append_left _ (List.mem_map.mpr ⟨old, List.mem_filter.mpr ⟨hmem, ?_⟩, heq⟩)
      rw [← heq, settleAll_name] at hname
      exact decide_eq_true (List.mem_map.mpr ⟨file, hfile, hname.symm⟩)
    · exact List.mem_append_right _ hinstalled
  · rw [hsame]
    exact hloop.ruleNames

/-!
## Reachable tables
-/

theorem AfterRun.allProvisioned {files : List (File κ)} {t t' : Tables σ}
    (h : AfterRun s tenantId files t t') (hall : AllProvisioned t) : AllProvisioned t' := by
  intro row hrow
  rw [h.providers] at hrow
  rcases List.mem_append.mp hrow with hold | hnew
  · rcases List.mem_map.mp hold with ⟨old, hmem, heq⟩
    rw [← heq, settleAll_provisioned]
    exact hall old (List.mem_of_mem_filter hmem)
  · rcases mem_newRows hnew with ⟨file, id, -, -, heq⟩
    rw [heq]
    rfl

theorem Reachable.invariant {t : Tables σ} (h : Reachable s tenantId t) :
    AllProvisioned t ∧ RuleNames tenantId t.rules := by
  rcases h with ⟨start, hproviders, hrules, hreach⟩
  refine hreach.invariant (p := fun t => AllProvisioned t ∧ RuleNames tenantId t.rules) ?_ ?_
  · refine ⟨fun row hrow => ?_, ?_⟩
    · rw [hproviders] at hrow
      cases hrow
    · unfold RuleNames
      rw [hrules]
      exact List.nodup_nil
  · intro t files t' hinv hstep
    unfold step at hstep
    split at hstep
    · rename_i hvalid
      cases hstep
      have hafter := afterRun s hvalid hinv.1 hinv.2
      exact ⟨hafter.allProvisioned hinv.1, hafter.ruleNames⟩
    · cases hstep

/-!
## The providers of the files
-/

section Agreement

variable {files : List (File κ)} {t t' : Tables σ}

theorem mem_listed {row : Provider σ} :
    row ∈ listed t files <-> row ∈ t.providers ∧ exists file, file ∈ files ∧ file.name = row.name := by
  unfold listed
  rw [List.mem_filter, decide_eq_true_iff, List.mem_map]

theorem not_isNew {file : File κ} :
    ¬ IsNew t file <-> exists row, row ∈ t.providers ∧ row.name = file.name := by
  rw [isNew_iff, not_not, List.mem_map]

theorem file_of_name (hvalid : Valid files) {a b : File κ} (ha : a ∈ files) (hb : b ∈ files)
    (h : a.name = b.name) : a = b :=
  List.inj_on_of_nodup_map hvalid.names ha hb h

/-- The types of the providers that stay are those of their files. -/
theorem types_iff (hvalid : Valid files) :
    ((listed t files).map fun row => (row.name, row.type)).Perm
        ((files.filter fun file => !decide (IsNew t file)).map fun file =>
          (file.name, file.type)) <->
      forall file, file ∈ files -> forall row, row ∈ t.providers -> row.name = file.name ->
        row.type = file.type := by
  have hleft : ((listed t files).map fun row => (row.name, row.type)).Nodup := by
    refine List.Nodup.of_map Prod.fst ?_
    rw [List.map_map]
    exact t.names.sublist (List.filter_sublist.map _)
  have hright : ((files.filter fun file => !decide (IsNew t file)).map fun file =>
      (file.name, file.type)).Nodup := by
    refine List.Nodup.of_map Prod.fst ?_
    rw [List.map_map]
    exact hvalid.names.sublist (List.filter_sublist.map _)
  rw [List.perm_ext_iff_of_nodup hleft hright]
  constructor
  · intro h file hfile row hrow hname
    have hmem := (h (row.name, row.type)).mp
      (List.mem_map.mpr ⟨row, mem_listed.mpr ⟨hrow, file, hfile, hname.symm⟩, rfl⟩)
    rcases List.mem_map.mp hmem with ⟨other, hother, heq⟩
    have hsame := file_of_name hvalid (List.mem_of_mem_filter hother) hfile
      ((congrArg Prod.fst heq).trans hname)
    rw [← hsame]
    exact (congrArg Prod.snd heq).symm
  · intro h pair
    rw [List.mem_map, List.mem_map]
    constructor
    · intro hpair
      rcases hpair with ⟨row, hlisted, heq⟩
      rcases mem_listed.mp hlisted with ⟨hrow, file, hfile, hname⟩
      have hold := not_isNew.mpr ⟨row, hrow, hname.symm⟩
      refine ⟨file, List.mem_filter.mpr ⟨hfile, by simp [hold]⟩, ?_⟩
      rw [← heq, hname, h file hfile row hrow hname.symm]
    · intro hpair
      rcases hpair with ⟨file, hmem, heq⟩
      rcases List.mem_filter.mp hmem with ⟨hfile, hold⟩
      rcases not_isNew.mp (by simpa using hold) with ⟨row, hrow, hname⟩
      refine ⟨row, mem_listed.mpr ⟨hrow, file, hfile, hname.symm⟩, ?_⟩
      rw [← heq, hname, h file hfile row hrow hname]

theorem AfterRun.providers_iff (hvalid : Valid files) (hall : AllProvisioned t)
    (h : AfterRun s tenantId files t t') :
    ((t'.providers.filter Provider.provisioned).map fun row => (row.name, row.type)).Perm
        (files.map fun file => (file.name, file.type)) <->
      forall file, file ∈ files -> forall row, row ∈ t.providers -> row.name = file.name ->
        row.type = file.type := by
  have hsplit : (files.map fun file => (file.name, file.type)).Perm
      ((files.filter fun file => !decide (IsNew t file)).map (fun file =>
        (file.name, file.type)) ++ (newFiles t files).map fun file => (file.name, file.type)) := by
    rw [← List.map_append]
    refine List.Perm.map _ ?_
    exact ((List.filter_append_perm (fun file => decide (IsNew t file)) files).symm).trans
      List.perm_append_comm
  have hkept : (((listed t files).map (settleAll s files)).map fun row => (row.name, row.type)) =
      (listed t files).map fun row => (row.name, row.type) := by
    rw [List.map_map]
    refine List.map_congr_left fun row _ => ?_
    rw [Function.comp_apply, settleAll_name, settleAll_type]
  rw [List.filter_eq_self.mpr fun row hrow => h.allProvisioned hall row hrow, h.providers,
    List.map_append, hkept,
    map_newRows (g := fun file : File κ => (file.name, file.type)) fun _ _ => rfl,
    ← types_iff hvalid]
  exact ⟨fun hperm => (List.perm_append_right_iff _).mp (hperm.trans hsplit),
    fun hperm => (hperm.append_right _).trans hsplit.symm⟩

/-!
## The rules of the files
-/

theorem mem_rules {rule : String × Entry} (h : rule ∈ files.flatMap File.rules) :
    exists file, file ∈ files ∧ rule ∈ file.rules ∧ file.rules ≠ [] ∧
      rule.2.providerName = file.name ∧ rule.2.name = rule.1 := by
  rcases List.mem_flatMap.mp h with ⟨file, hfile, hrule⟩
  refine ⟨file, hfile, hrule, List.ne_nil_of_mem hrule, ?_⟩
  rcases List.mem_map.mp hrule with ⟨entry, -, heq⟩
  rw [← heq]
  exact ⟨rfl, rfl⟩

/-- A provider that was there keeps its id and its type. -/
theorem AfterRun.entryView_kept (h : AfterRun s tenantId files t t') {file : File κ}
    (hfile : file ∈ files) (hold : ¬ IsNew t file) {entry : Entry}
    (hentry : entry.providerName = file.name) :
    entryView t'.getInstalledProviders entry = entryView t.getInstalledProviders entry := by
  rcases not_isNew.mp hold with ⟨row, hrow, hname⟩
  have hthere : settleAll s files row ∈ t'.providers := by
    rw [h.providers]
    refine List.mem_append_left _ (List.mem_map_of_mem ?_)
    exact mem_listed.mpr ⟨hrow, file, hfile, hname.symm⟩
  have hname' : (settleAll s files row).name = entry.providerName := by
    rw [settleAll_name, hname, hentry]
  rw [entryView_eq hthere hname', entryView_eq hrow (hname.trans hentry.symm), settleAll_id,
    settleAll_type]

/-- Where no new provider has rules, they stay. -/
theorem AfterRun.rules_of_none (h : AfterRun s tenantId files t t')
    (hnone : forall file, file ∈ files -> IsNew t file -> file.rules = []) :
    (((t'.rules.provisioned tenantId).map fun row => some row.view).Perm
        ((files.flatMap File.rules).map fun rule =>
          entryView t'.getInstalledProviders rule.2)) <->
      ((t.rules.provisioned tenantId).map fun row => some row.view).Perm
        ((files.flatMap File.rules).map fun rule =>
          entryView t.getInstalledProviders rule.2) := by
  have hviews : (files.flatMap File.rules).map (fun rule =>
      entryView t'.getInstalledProviders rule.2) =
        (files.flatMap File.rules).map fun rule => entryView t.getInstalledProviders rule.2 := by
    refine List.map_congr_left fun rule hrule => ?_
    rcases mem_rules hrule with ⟨file, hfile, -, hsome, hprovider, -⟩
    exact h.entryView_kept hfile (fun hnew => hsome (hnone file hfile hnew)) hprovider
  rw [h.kept hnone, hviews]

/-- The views of a file's rules, with its own provider. -/
theorem views_of_file {file : File κ} {row : Provider σ} (hrow : row ∈ t'.providers)
    (hname : row.name = file.name) :
    (file.rules.map fun rule => entryView t'.getInstalledProviders rule.2) =
      (file.deduplicationRules.map fun rule =>
        ruleView (rule.1, ⟨rule.2, toString row.id, row.type⟩)).map some := by
  unfold File.rules
  rw [List.map_map, List.map_map]
  exact List.map_congr_left fun rule _ => entryView_eq hrow hname

/-- With one file that has rules, they are those of the file. -/
theorem perm_rules_of_alone (hvalid : Valid files) {file : File κ} (hfile : file ∈ files)
    (halone : forall other, other ∈ files -> other.rules ≠ [] -> other.name = file.name) :
    (files.flatMap File.rules).Perm file.rules := by
  have hnodup := List.Nodup.of_map _ hvalid.ruleNames
  have hown := List.Nodup.of_map _ (hvalid.ownRuleNames file hfile)
  rw [List.perm_ext_iff_of_nodup hnodup hown]
  intro rule
  constructor
  · intro hrule
    rcases mem_rules hrule with ⟨other, hother, hmem, hsome, -⟩
    rw [← file_of_name hvalid hother hfile (halone other hother hsome)]
    exact hmem
  · exact fun hrule => List.mem_flatMap.mpr ⟨file, hfile, hrule⟩

/-- Where a new provider has rules, those of one of them are all that there are. -/
theorem AfterRun.rules_of_some (hvalid : Valid files) (h : AfterRun s tenantId files t t')
    (hsome : exists file, file ∈ files ∧ IsNew t file ∧ file.rules ≠ []) :
    (((t'.rules.provisioned tenantId).map fun row => some row.view).Perm
        ((files.flatMap File.rules).map fun rule =>
          entryView t'.getInstalledProviders rule.2)) <->
      forall file, file ∈ files -> IsNew t file -> file.rules ≠ [] ->
        forall other, other ∈ files -> other.rules ≠ [] -> other.name = file.name := by
  rcases h.last hsome with ⟨last, row, hlast, hlastNew, hlastSome, hrow, hname, -, hrules⟩
  have hviews : ((t'.rules.provisioned tenantId).map fun row => some row.view).Perm
      (last.rules.map fun rule => entryView t'.getInstalledProviders rule.2) := by
    rw [views_of_file hrow hname]
    have hperm := List.Perm.map some hrules
    rw [List.map_map] at hperm
    exact hperm
  constructor
  · intro hperm
    -- As many rules as one file has are all the rules: they are of that file.
    have hsub : last.rules.Sublist (files.flatMap File.rules) :=
      List.sublist_flatten_of_mem (List.mem_map_of_mem hlast)
    have hlength := (hviews.symm.trans hperm).length_eq
    rw [List.length_map, List.length_map] at hlength
    have hsame := hsub.eq_of_length hlength
    have halone : forall other, other ∈ files -> other.rules ≠ [] ->
        other.name = last.name := by
      intro other hother hotherSome
      rcases List.exists_mem_of_ne_nil _ hotherSome with ⟨rule, hrule⟩
      have hall : rule ∈ last.rules := by
        rw [hsame]
        exact List.mem_flatMap.mpr ⟨other, hother, hrule⟩
      rcases List.mem_map.mp hrule with ⟨entry, -, heq⟩
      rcases List.mem_map.mp hall with ⟨entry', -, heq'⟩
      exact congrArg (fun rule => rule.2.providerName) (heq.trans heq'.symm)
    intro file hfile _ hfileSome other hother hotherSome
    rw [halone other hother hotherSome, halone file hfile hfileSome]
  · intro halone
    exact hviews.trans ((perm_rules_of_alone hvalid hlast
      (halone last hlast hlastNew hlastSome)).symm.map _)

/-!
## A second run
-/

theorem settleAll_perm {order : List (File κ)} (hvalid : Valid files) (hperm : order.Perm files)
    (row : Provider σ) : settleAll s order row = settleAll s files row := by
  have hnames : (order.map File.name).Nodup := (hperm.map File.name).nodup_iff.mpr hvalid.names
  have hfind : (order.find? fun file => file.name == row.name) =
      files.find? fun file => file.name == row.name := by
    refine Option.ext fun file => ?_
    rw [FirstMatch.find?_key hnames, FirstMatch.find?_key hvalid.names, hperm.mem_iff]
  unfold settleAll
  rw [hfind]

theorem Valid.perm {order : List (File κ)} (h : Valid files) (hperm : order.Perm files) :
    Valid order :=
  ⟨(hperm.map _).nodup_iff.mpr h.names, ((hperm.flatMap_right _).map _).nodup_iff.mpr h.ruleNames⟩

theorem settleAll_settleAll (row : Provider σ) :
    settleAll s files (settleAll s files row) = settleAll s files row := by
  unfold settleAll
  cases hfind : files.find? fun file => file.name == row.name with
  | none => simp only [hfind]
  | some file =>
      simp only
      have hfind' : (files.find? fun other => other.name == (row.update s file).name) =
          some file := hfind
      rw [hfind']
      rfl

theorem settleAll_of_file (hvalid : Valid files) {file : File κ} (hfile : file ∈ files)
    {row : Provider σ} (hname : row.name = file.name) :
    settleAll s files row = row.update s file := by
  unfold settleAll
  rw [(FirstMatch.find?_key hvalid.names).mpr ⟨hfile, hname.symm⟩]

/-- A run over files whose providers are there updates them, and changes nothing else. -/
theorem again_iff (hvalid : Valid files) (hall : AllProvisioned t')
    (hdb : RuleNames tenantId t'.rules) (hold : forall file, file ∈ files -> ¬ IsNew t' file)
    (hlisted : forall row, row ∈ t'.providers -> exists file, file ∈ files ∧ file.name = row.name) :
    provisionProviders s tenantId t' files = t' <->
      forall row, row ∈ t'.providers -> settleAll s files row = row := by
  have hafter := afterRun s hvalid hall hdb
  have hnewFiles : newFiles t' files = [] :=
    List.filter_eq_nil_iff.mpr fun file hfile hnew => hold file hfile (of_decide_eq_true hnew)
  have hkeptRows : listed t' files = t'.providers :=
    List.filter_eq_self.mpr fun row hrow => decide_eq_true (List.mem_map.mpr (hlisted row hrow))
  have hproviders := hafter.providers
  rw [hnewFiles, hkeptRows] at hproviders
  have hrows : (provisionProviders s tenantId t' files).providers =
      t'.providers.map (settleAll s files) := hproviders.trans (List.append_nil _)
  constructor
  · intro heq row hrow
    rw [heq] at hrows
    have hsame : t'.providers.map (settleAll s files) = t'.providers.map id :=
      hrows.symm.trans (List.map_id _).symm
    exact List.map_inj_left.mp hsame row hrow
  · intro hfixed
    refine Tables.ext ?_ ?_ ?_
    · rw [hrows]
      exact (List.map_congr_left hfixed).trans (List.map_id _)
    · rw [hafter.nextId, hnewFiles]
      rfl
    · exact hafter.kept fun file hfile hnew => absurd hnew (hold file hfile)

/-- After a run the files' providers are there, and no others. -/
theorem AfterRun.row_of_file (h : AfterRun s tenantId files t t') {file : File κ}
    (hfile : file ∈ files) : ¬ IsNew t' file := by
  rw [not_isNew]
  rcases Classical.em (IsNew t file) with hnew | hold
  · have hname : file.name ∈ (newRows s t.nextId (newFiles t files)).map Provider.name := by
      rw [map_newRows (g := File.name) fun _ _ => rfl]
      exact List.mem_map_of_mem (List.mem_filter.mpr ⟨hfile, decide_eq_true hnew⟩)
    rcases List.mem_map.mp hname with ⟨row, hrow, heq⟩
    refine ⟨row, ?_, heq⟩
    rw [h.providers]
    exact List.mem_append_right _ hrow
  · rcases not_isNew.mp hold with ⟨row, hrow, hname⟩
    refine ⟨settleAll s files row, ?_, (settleAll_name files row).trans hname⟩
    rw [h.providers]
    exact List.mem_append_left _ (List.mem_map_of_mem (mem_listed.mpr ⟨hrow, file, hfile, hname.symm⟩))

theorem AfterRun.file_of_row (h : AfterRun s tenantId files t t') {row : Provider σ}
    (hrow : row ∈ t'.providers) : exists file, file ∈ files ∧ file.name = row.name := by
  rw [h.providers] at hrow
  rcases List.mem_append.mp hrow with hold | hnew
  · rcases List.mem_map.mp hold with ⟨old, hmem, heq⟩
    rcases mem_listed.mp hmem with ⟨-, file, hfile, hname⟩
    refine ⟨file, hfile, ?_⟩
    rw [← heq, settleAll_name, hname]
  · rcases mem_newRows hnew with ⟨file, id, hfile, -, heq⟩
    refine ⟨file, List.mem_of_mem_filter hfile, ?_⟩
    rw [heq]
    rfl

theorem update_installed {file : File κ} {id : Nat} :
    (installed s file id).update s file = installed s file id <->
      s.validateScopes file.type file.authentication = s.noScopes ∧ file.pulls = true := by
  unfold Provider.update installed
  simp only [Provider.mk.injEq, true_and, and_true]

/-- Only the rows of new providers can be changed by a second run. -/
theorem AfterRun.fixed_iff (hvalid : Valid files) (h : AfterRun s tenantId files t t') :
    (forall row, row ∈ t'.providers -> settleAll s files row = row) <->
      forall file, file ∈ files -> IsNew t file ->
        s.validateScopes file.type file.authentication = s.noScopes ∧ file.pulls = true := by
  rw [h.providers]
  constructor
  · intro hfixed file hfile hnew
    have hname : file.name ∈ (newRows s t.nextId (newFiles t files)).map Provider.name := by
      rw [map_newRows (g := File.name) fun _ _ => rfl]
      exact List.mem_map_of_mem (List.mem_filter.mpr ⟨hfile, decide_eq_true hnew⟩)
    rcases List.mem_map.mp hname with ⟨row, hrow, heq⟩
    rcases mem_newRows hrow with ⟨other, id, hother, -, hrowEq⟩
    have hsame : other = file := by
      rw [hrowEq] at heq
      exact file_of_name hvalid (List.mem_of_mem_filter hother) hfile heq
    have hrowFixed := hfixed row (List.mem_append_right _ hrow)
    rw [hrowEq, hsame, settleAll_of_file hvalid hfile rfl] at hrowFixed
    exact update_installed.mp hrowFixed
  · intro hquiet row hrow
    rcases List.mem_append.mp hrow with hold | hnew
    · rcases List.mem_map.mp hold with ⟨old, -, heq⟩
      rw [← heq]
      exact settleAll_settleAll old
    · rcases mem_newRows hnew with ⟨file, id, hmem, -, heq⟩
      rcases List.mem_filter.mp hmem with ⟨hfile, hisNew⟩
      rw [heq, settleAll_of_file hvalid hfile rfl]
      exact update_installed.mpr (hquiet file hfile (of_decide_eq_true hisNew))

/-!
## Every order
-/

theorem AfterRun.again_iff (hvalid : Valid files) (hall : AllProvisioned t)
    (h : AfterRun s tenantId files t t') :
    (forall order, order.Perm files -> provisionProviders s tenantId t' order = t') <->
      forall file, file ∈ files -> IsNew t file ->
        s.validateScopes file.type file.authentication = s.noScopes ∧ file.pulls = true := by
  have hagain : forall order, order.Perm files ->
      (provisionProviders s tenantId t' order = t' <->
        forall row, row ∈ t'.providers -> settleAll s files row = row) := by
    intro order hperm
    rw [Directory.again_iff (hvalid.perm hperm) (h.allProvisioned hall) h.ruleNames
      (fun file hfile => h.row_of_file (hperm.mem_iff.mp hfile)) fun row hrow => ?_]
    · exact forall₂_congr fun row _ => by rw [settleAll_perm hvalid hperm]
    · rcases h.file_of_row hrow with ⟨file, hfile, hname⟩
      exact ⟨file, hperm.mem_iff.mpr hfile, hname⟩
  rw [← h.fixed_iff hvalid]
  exact ⟨fun hall => (hagain files (List.Perm.refl _)).mp (hall files (List.Perm.refl _)),
    fun hfixed order hperm => (hagain order hperm).mpr hfixed⟩

/-- One run follows its files where the files are settled. -/
theorem AfterRun.settled_iff (hvalid : Valid files) (hall : AllProvisioned t)
    (h : AfterRun s tenantId files t t') :
    Follows s tenantId files t' <-> Settled s tenantId files t := by
  have hproviders := h.providers_iff hvalid hall
  have hagain := h.again_iff hvalid hall
  rcases Classical.em (exists file, file ∈ files ∧ IsNew t file ∧ file.rules ≠ []) with
    hsome | hnone
  · have hrules := h.rules_of_some hvalid hsome
    constructor
    · intro hfollows
      refine ⟨hproviders.mp hfollows.providers, hagain.mp hfollows.again,
        hrules.mp hfollows.rules, fun hno => ?_⟩
      rcases hsome with ⟨file, hfile, hnew, hrules⟩
      exact absurd (hno file hfile hnew) hrules
    · exact fun hsettled => ⟨hproviders.mpr hsettled.types, hrules.mpr hsettled.alone,
        hagain.mpr hsettled.quiet⟩
  · have hno : forall file, file ∈ files -> IsNew t file -> file.rules = [] :=
      fun file hfile hnew => Classical.byContradiction fun hrules =>
        hnone ⟨file, hfile, hnew, hrules⟩
    have hrules := h.rules_of_none hno
    constructor
    · intro hfollows
      refine ⟨hproviders.mp hfollows.providers, hagain.mp hfollows.again,
        fun file hfile hnew hfileRules => absurd (hno file hfile hnew) hfileRules,
        fun _ => hrules.mp hfollows.rules⟩
    · exact fun hsettled => ⟨hproviders.mpr hsettled.types, hrules.mpr (hsettled.there hno),
        hagain.mpr hsettled.quiet⟩

theorem Follows.perm {order : List (File κ)} (h : Follows s tenantId order t')
    (hperm : order.Perm files) : Follows s tenantId files t' where
  providers := h.providers.trans (hperm.map _)
  rules := h.rules.trans ((hperm.flatMap_right _).map _)
  again := fun other hother => h.again other (hother.trans hperm.symm)

theorem Settled.perm {order : List (File κ)} (h : Settled s tenantId files t)
    (hperm : order.Perm files) : Settled s tenantId order t where
  types := fun file hfile => h.types file (hperm.mem_iff.mp hfile)
  quiet := fun file hfile => h.quiet file (hperm.mem_iff.mp hfile)
  alone := fun file hfile hnew hrules other hother =>
    h.alone file (hperm.mem_iff.mp hfile) hnew hrules other (hperm.mem_iff.mp hother)
  there := fun hno => (h.there fun file hfile => hno file (hperm.mem_iff.mpr hfile)).trans
    ((hperm.symm.flatMap_right _).map _)

/-- The rows of `provider` do not depend on the order, but for the ids of new ones. -/
theorem AfterRun.contents {order : List (File κ)} {t'' : Tables σ} (hvalid : Valid files)
    (hperm : order.Perm files) (h : AfterRun s tenantId files t t')
    (horder : AfterRun s tenantId order t t'') :
    (t''.providers.map Provider.content).Perm (t'.providers.map Provider.content) := by
  have hlisted : listed t order = listed t files := by
    refine List.filter_congr fun row _ => decide_eq_decide.mpr ?_
    exact (hperm.map File.name).mem_iff
  have hsettled : (listed t files).map (settleAll s order) =
      (listed t files).map (settleAll s files) :=
    List.map_congr_left fun row _ => settleAll_perm hvalid hperm row
  have hcontent : forall (file : File κ) id, (installed s file id).content =
      (file.name, file.type, s.noScopes, true, true) := fun _ _ => rfl
  rw [h.providers, horder.providers, List.map_append, List.map_append, hlisted, hsettled,
    map_newRows hcontent, map_newRows hcontent]
  exact (List.Perm.map _ (hperm.filter _)).append_left _

end Agreement

/-- From every state that earlier runs lead to, a run follows its files in every order exactly
where they are settled. -/
theorem followsFiles_iff {files : List (File κ)} {t : Tables σ} (hvalid : Valid files)
    (hreach : Reachable s tenantId t) :
    FollowsFiles s tenantId files t <-> Settled s tenantId files t := by
  rcases hreach.invariant with ⟨hall, hdb⟩
  have hafter : forall order, order.Perm files ->
      AfterRun s tenantId order t (provisionProviders s tenantId t order) :=
    fun order hperm => afterRun s (hvalid.perm hperm) hall hdb
  have hfiles := hafter files (List.Perm.refl _)
  constructor
  · intro h
    exact (hfiles.settled_iff hvalid hall).mp (h files (List.Perm.refl _)).1
  · intro h order hperm
    refine ⟨?_, hfiles.contents hvalid hperm (hafter order hperm)⟩
    have hfollows := ((hafter order hperm).settled_iff (hvalid.perm hperm) hall).mpr (h.perm hperm)
    exact hfollows.perm hperm

section Runs

def scopeless : Services Unit Unit where
  validateScopes := fun _ _ => ()
  noScopes := ()

/-- A tenant without providers and rules. -/
def noTables : Tables Unit where
  providers := []
  nextId := 0
  rules := ⟨[], 0, List.nodup_nil, Database.noRows_fresh⟩
  distinct := List.nodup_nil
  fresh := fun _ h => absurd h List.not_mem_nil
  names := List.nodup_nil

/-- A file with one rule. -/
def oneRuleFile (name ruleName : String) : File Unit where
  name := name
  type := "prometheus"
  authentication := ()
  pullingEnabled := none
  deduplicationRules := [(ruleName, ⟨none, some ["host"], none, none⟩)]

theorem noTables_reachable : Reachable scopeless "keep" noTables :=
  ⟨noTables, rfl, rfl, [], rfl⟩

theorem oneFile_followsFiles :
    FollowsFiles scopeless "keep" [oneRuleFile "a" "hosts"] noTables := by
  refine (followsFiles_iff (by decide) noTables_reachable).mpr ⟨?_, ?_, ?_, ?_⟩
  · intro file _ row hrow
    cases hrow
  · exact fun file hfile _ => (List.mem_singleton.mp hfile) ▸ ⟨rfl, rfl⟩
  · intro file hfile _ _ other hother _
    rw [List.mem_singleton.mp hfile, List.mem_singleton.mp hother]
  · intro hno
    have hrules := hno (oneRuleFile "a" "hosts") List.mem_cons_self rfl
    cases hrules

/-- Of two new providers only the last one's rules are left. -/
theorem twoFiles_not_followsFiles :
    Valid [oneRuleFile "a" "hosts", oneRuleFile "b" "services"] ∧
      Reachable scopeless "keep" noTables ∧
      ¬ FollowsFiles scopeless "keep" [oneRuleFile "a" "hosts", oneRuleFile "b" "services"]
        noTables := by
  refine ⟨by decide, noTables_reachable, fun h => ?_⟩
  have hlength := (h _ (List.Perm.refl _)).1.rules.length_eq
  rw [List.length_map, List.length_map] at hlength
  exact absurd hlength (by decide)

end Runs

end Directory
end Deduplication
end KeepGateway
