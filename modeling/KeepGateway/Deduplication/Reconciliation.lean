import KeepGateway.Deduplication.Provisioning

/-!
# The table after provisioning

The two loops of `provision_deduplication_rules` in closed form, and from them when the
provisioned rules of the tenant are the entries of the mapping.
-/

namespace KeepGateway
namespace Deduplication

open Latest (index latest shadowed)

variable {tenantId : String} {installed : List InstalledProvider}

/-!
## Rows and entries
-/

/-- What a rule says, apart from its id and who wrote it. -/
structure View where
  name : String
  description : String
  providerId : Option String
  providerType : String
  enabled : Bool
  fingerprintFields : List String
  fullDeduplication : Bool
  ignoreFields : List String
  priority : Int
  deriving DecidableEq, Repr

def AlertDeduplicationRule.view (row : AlertDeduplicationRule) : View where
  name := row.name
  description := row.description
  providerId := row.providerId
  providerType := row.providerType
  enabled := row.enabled
  fingerprintFields := row.fingerprintFields
  fullDeduplication := row.fullDeduplication
  ignoreFields := row.ignoreFields
  priority := row.priority

def ruleView (rule : String × EnrichedRule) : View where
  name := rule.1
  description := rule.2.config.description.getD ""
  providerId := some rule.2.providerId
  providerType := rule.2.providerType
  enabled := true
  fingerprintFields := rule.2.config.fingerprintFields.getD []
  fullDeduplication := rule.2.config.fullDeduplication.getD false
  ignoreFields := rule.2.config.ignoreFields.getD []
  priority := 0

/-- What an entry of the mapping asks for: its fields, and the id and the type of its
provider. -/
def entryView (installed : List InstalledProvider) (entry : Entry) : Option View :=
  (installedProvider installed entry.providerName).map fun provider =>
    ruleView (entry.name, ⟨entry.config, provider.id, provider.type⟩)

theorem view_provision (rule : EnrichedRule) (name : String) (row : AlertDeduplicationRule) :
    (row.provision rule name).view = ruleView (name, rule) := rfl

theorem view_create (id : Nat) (name : String) (rule : EnrichedRule) :
    (AlertDeduplicationRule.create id tenantId name rule).view = ruleView (name, rule) := rfl

theorem mem_provisioned {db : Database} {row : AlertDeduplicationRule} :
    row ∈ db.provisioned tenantId <-> row ∈ db.rules ∧ row.isProvisionedOf tenantId = true := by
  unfold Database.provisioned Database.getAllDeduplicationRules
  rw [List.mem_filter, List.mem_filter, and_assoc]
  unfold AlertDeduplicationRule.isProvisionedOf
  rw [Bool.and_eq_true]

theorem provisioned_eq (db : Database) :
    db.provisioned tenantId = db.rules.filter fun row => row.isProvisionedOf tenantId := by
  unfold Database.provisioned Database.getAllDeduplicationRules
  rw [List.filter_filter]
  apply List.filter_congr
  intro row _
  exact Bool.and_comm _ _

theorem tenant_of_mem {db : Database} {row : AlertDeduplicationRule}
    (h : row ∈ db.provisioned tenantId) : row.tenantId = tenantId := by
  have hprovisioned := (mem_provisioned.mp h).2
  unfold AlertDeduplicationRule.isProvisionedOf at hprovisioned
  exact of_decide_eq_true (Bool.and_eq_true_iff.mp hprovisioned).1

theorem Database.eq_of_id (db : Database) {a b : AlertDeduplicationRule} (ha : a ∈ db.rules)
    (hb : b ∈ db.rules) (h : a.id = b.id) : a = b :=
  List.inj_on_of_nodup_map db.distinct ha hb h

/-!
## Enrichment
-/

theorem enrichRule_ok {entry : Entry} {rule : EnrichedRule}
    (h : enrichRule installed entry = .ok rule) :
    entryView installed entry = some (ruleView (entry.name, rule)) := by
  unfold enrichRule at h
  unfold entryView
  split at h
  · cases h
  · rename_i provider hprovider
    cases h
    rw [hprovider]
    rfl

/-- With its providers installed a dictionary of rules is enriched rule by rule. -/
theorem enrich_total {rules : List (String × Entry)}
    (hinstalled : forall rule, rule ∈ rules ->
      exists provider, installedProvider installed rule.2.providerName = some provider) :
    exists enriched, enrichWithProvidersInfo installed rules = .ok enriched ∧
      enriched.map Prod.fst = rules.map Prod.fst ∧
      ((forall rule, rule ∈ rules -> rule.2.name = rule.1) ->
        enriched.map (fun rule => some (ruleView rule)) =
          rules.map fun rule => entryView installed rule.2) := by
  induction rules with
  | nil => exact ⟨[], rfl, rfl, fun _ => rfl⟩
  | cons rule rest ih =>
      rcases rule with ⟨name, entry⟩
      rcases hinstalled (name, entry) List.mem_cons_self with ⟨provider, hprovider⟩
      rcases ih fun r hr => hinstalled r (List.mem_cons_of_mem _ hr) with
        ⟨others, hothers, hkeys, hviews⟩
      have henriched : enrichRule installed entry =
          .ok ⟨entry.config, provider.id, provider.type⟩ := by
        unfold enrichRule
        rw [hprovider]
      refine ⟨(name, ⟨entry.config, provider.id, provider.type⟩) :: others, ?_, ?_, ?_⟩
      · exact bind_eq_ok.mpr ⟨_, henriched, bind_eq_ok.mpr ⟨_, hothers, rfl⟩⟩
      · rw [List.map_cons, List.map_cons, hkeys]
      · intro hnames
        have hname : entry.name = name := hnames (name, entry) List.mem_cons_self
        rw [List.map_cons, List.map_cons,
          hviews fun r hr => hnames r (List.mem_cons_of_mem _ hr), enrichRule_ok henriched, hname]

/-!
## Deletion
-/

variable (tenantId) in
theorem foldl_delete (gone : List AlertDeduplicationRule) (db : Database) :
    (gone.foldl (fun db row => db.deleteDeduplicationRule tenantId row.id) db).rules =
        db.rules.filter (fun row =>
          gone.all fun other => !(row.id == other.id && row.tenantId == tenantId)) ∧
      (gone.foldl (fun db row => db.deleteDeduplicationRule tenantId row.id) db).nextId =
        db.nextId := by
  induction gone generalizing db with
  | nil => simp
  | cons other rest ih =>
      rcases ih (db.deleteDeduplicationRule tenantId other.id) with ⟨hrules, hnext⟩
      refine ⟨?_, hnext⟩
      rw [List.foldl_cons, hrules]
      show (db.rules.filter _).filter _ = _
      rw [List.filter_filter]
      apply List.filter_congr
      intro row _
      rw [List.all_cons, Bool.and_comm]

/-- The rows that the deletion keeps. -/
def isKept (tenantId : String) (names : List String) (row : AlertDeduplicationRule) : Bool :=
  !(row.isProvisionedOf tenantId) || names.contains row.name

theorem deleteMissing_rules (rules : List (String × EnrichedRule)) (db : Database) :
    (deleteMissing tenantId rules db).rules =
        db.rules.filter (isKept tenantId (rules.map Prod.fst)) ∧
      (deleteMissing tenantId rules db).nextId = db.nextId := by
  unfold deleteMissing
  rcases foldl_delete tenantId
    ((db.provisioned tenantId).filter fun row => row.name ∉ rules.map Prod.fst) db with
    ⟨hrules, hnext⟩
  refine ⟨?_, hnext⟩
  rw [hrules]
  apply List.filter_congr
  intro row hrow
  rw [Bool.eq_iff_iff, List.all_eq_true]
  unfold isKept
  constructor
  · intro hall
    cases hp : row.isProvisionedOf tenantId with
    | false => rfl
    | true =>
        cases hname : (rules.map Prod.fst).contains row.name with
        | true => rfl
        | false =>
            have hmem : row ∈ db.provisioned tenantId := mem_provisioned.mpr ⟨hrow, hp⟩
            have hgone := hall row (List.mem_filter.mpr ⟨hmem, by simpa using hname⟩)
            rw [tenant_of_mem hmem] at hgone
            simp at hgone
  · intro hkept other hother
    rcases List.mem_filter.mp hother with ⟨hprovisioned, hname⟩
    have hmissing : ¬ other.name ∈ rules.map Prod.fst := of_decide_eq_true hname
    have hne : row.id ≠ other.id := by
      intro hid
      have heq := db.eq_of_id hrow (mem_provisioned.mp hprovisioned).1 hid
      rw [heq, (mem_provisioned.mp hprovisioned).2] at hkept
      exact hmissing (List.contains_iff_mem.mp hkept)
    simp [hne]

/-!
## The loop
-/

/-- What the loop leaves of a row. -/
def settled (known : List (String × AlertDeduplicationRule)) (rules : List (String × EnrichedRule))
    (row : AlertDeduplicationRule) : AlertDeduplicationRule :=
  if known.lookup row.name = some row then
    match rules.lookup row.name with
    | some rule => row.provision rule row.name
    | none => row
  else row

/-- The rows that the loop creates, from the next fresh id on. -/
def created (tenantId : String) (known : List (String × AlertDeduplicationRule)) :
    Nat -> List (String × EnrichedRule) -> List AlertDeduplicationRule
  | _, [] => []
  | nextId, (name, rule) :: rest =>
      match known.lookup name with
      | some _ => created tenantId known nextId rest
      | none =>
          AlertDeduplicationRule.create nextId tenantId name rule ::
            created tenantId known (nextId + 1) rest

variable {known : List (String × AlertDeduplicationRule)}

theorem settled_of_ne {rules : List (String × EnrichedRule)} {row : AlertDeduplicationRule}
    (h : known.lookup row.name ≠ some row) : settled known rules row = row := by
  unfold settled
  rw [if_neg h]

theorem settled_of_mem {rules : List (String × EnrichedRule)} {row : AlertDeduplicationRule}
    {rule : EnrichedRule} (hknown : known.lookup row.name = some row)
    (hrule : rules.lookup row.name = some rule) :
    settled known rules row = row.provision rule row.name := by
  unfold settled
  rw [if_pos hknown, hrule]

theorem settled_of_missing {rules : List (String × EnrichedRule)} {row : AlertDeduplicationRule}
    (hrule : rules.lookup row.name = none) : settled known rules row = row := by
  unfold settled
  rw [hrule]
  split <;> rfl

/-- A rule of another name does not touch the row. -/
theorem settled_cons_ne {rules : List (String × EnrichedRule)} {row : AlertDeduplicationRule}
    {name : String} {rule : EnrichedRule} (h : name ≠ row.name ∨ known.lookup row.name ≠ some row) :
    settled known ((name, rule) :: rules) row = settled known rules row := by
  rcases h with h | h
  · unfold settled
    rw [Dict.lookup_cons_eq, if_neg h]
  · rw [settled_of_ne h, settled_of_ne h]

theorem settled_name (rules : List (String × EnrichedRule)) (row : AlertDeduplicationRule) :
    (settled known rules row).name = row.name := by
  unfold settled
  split
  · split <;> rfl
  · rfl

theorem settled_isProvisionedOf (rules : List (String × EnrichedRule))
    (row : AlertDeduplicationRule) :
    (settled known rules row).isProvisionedOf tenantId = row.isProvisionedOf tenantId := by
  unfold settled
  split
  · split <;> rfl
  · rfl

/-- The known rows that the loop comes to are rows of the table, under their own name. -/
structure KnownRows (tenantId : String) (known : List (String × AlertDeduplicationRule))
    (rules : List (String × EnrichedRule)) (db : Database) : Prop where
  name : forall name row, known.lookup name = some row -> row.name = name
  tenant : forall name row, known.lookup name = some row -> row.tenantId = tenantId
  mem : forall rule, rule ∈ rules -> forall row, known.lookup rule.1 = some row -> row ∈ db.rules

theorem KnownRows.tail {rule : String × EnrichedRule} {rules : List (String × EnrichedRule)}
    {db db' : Database} (h : KnownRows tenantId known (rule :: rules) db)
    (hkeep : forall other, other ∈ rules -> forall row, known.lookup other.1 = some row ->
      row ∈ db.rules -> row ∈ db'.rules) : KnownRows tenantId known rules db' where
  name := h.name
  tenant := h.tenant
  mem := fun other hother row hrow =>
    hkeep other hother row hrow (h.mem other (List.mem_cons_of_mem _ hother) row hrow)

theorem updatedRow_eq {db : Database} {row other : AlertDeduplicationRule} (hrow : row ∈ db.rules)
    (htenant : row.tenantId = tenantId) (hother : other ∈ db.rules) (name : String)
    (rule : EnrichedRule) :
    Database.updatedRow tenantId row.id name rule other =
      if other = row then row.provision rule name else other := by
  unfold Database.updatedRow
  rcases Classical.em (other = row) with heq | hne
  · rw [if_pos heq, heq, if_pos ⟨rfl, htenant⟩]
  · rw [if_neg hne, if_neg fun h => hne (db.eq_of_id hother hrow h.1)]

/-- One round of the loop: the known row is provisioned, or a row is created. -/
theorem provisionRule_cases {db : Database} {name : String} {rule : EnrichedRule}
    {rules : List (String × EnrichedRule)}
    (h : KnownRows tenantId known ((name, rule) :: rules) db) :
    (exists row, known.lookup name = some row ∧ row ∈ db.rules ∧
        provisionRule tenantId known db (name, rule) =
          .ok (db.writeRow tenantId row.id name rule)) ∨
      (known.lookup name = none ∧
        provisionRule tenantId known db (name, rule) =
          .ok (db.createDeduplicationRule tenantId name rule)) := by
  cases hknown : known.lookup name with
  | none =>
      refine .inr ⟨rfl, ?_⟩
      unfold provisionRule
      rw [hknown]
  | some row =>
      have hmem := h.mem (name, rule) List.mem_cons_self row hknown
      refine .inl ⟨row, rfl, hmem, ?_⟩
      unfold provisionRule
      rw [hknown]
      refine if_pos (List.any_eq_true.mpr ⟨row, hmem, ?_⟩)
      simp [h.tenant name row hknown]

/-- A round that writes its row leaves the others to the rounds after it. -/
theorem map_settled_writeRow {db : Database} {name : String} {rule : EnrichedRule}
    {rest : List (String × EnrichedRule)} (hfresh : name ∉ rest.map Prod.fst)
    (hknown : KnownRows tenantId known ((name, rule) :: rest) db) {row : AlertDeduplicationRule}
    (hlookup : known.lookup name = some row) (hrow : row ∈ db.rules) :
    (db.writeRow tenantId row.id name rule).rules.map (settled known rest) =
      db.rules.map (settled known ((name, rule) :: rest)) := by
  have hname := hknown.name name row hlookup
  have htenant := hknown.tenant name row hlookup
  show (db.rules.map _).map _ = _
  rw [List.map_map]
  apply List.map_congr_left
  intro found hin
  rw [Function.comp_apply, updatedRow_eq hrow htenant hin name rule]
  rcases Classical.em (found = row) with heq | hne
  · have hmissing : rest.lookup name = none := Dict.lookup_eq_none.mpr hfresh
    have hfound : ((name, rule) :: rest).lookup row.name = some rule := by
      rw [hname, Dict.lookup_cons_eq, if_pos rfl]
    rw [if_pos heq, heq, settled_of_missing (by rw [← hname] at hmissing ⊢; exact hmissing),
      settled_of_mem (by rw [hname]; exact hlookup) hfound, hname]
  · rw [if_neg hne, settled_cons_ne]
    rcases Classical.em (name = found.name) with heq | hname'
    · refine .inr ?_
      rw [← heq, hlookup]
      exact fun h => hne (Option.some.inj h).symm
    · exact .inl hname'

/-- A row that is created stays as it is. -/
theorem map_settled_create {name : String} (hlookup : known.lookup name = none) (db : Database)
    (rule : EnrichedRule) (rest : List (String × EnrichedRule)) :
    (db.createDeduplicationRule tenantId name rule).rules.map (settled known rest) =
      db.rules.map (settled known ((name, rule) :: rest)) ++
        [AlertDeduplicationRule.create db.nextId tenantId name rule] := by
  show (db.rules ++ [_]).map _ = _
  rw [List.map_append, List.map_singleton]
  congr 1
  · apply List.map_congr_left
    intro found _
    rw [settled_cons_ne]
    rcases Classical.em (name = found.name) with heq | hne
    · refine .inr ?_
      rw [← heq, hlookup]
      exact fun h => by cases h
    · exact .inl hne
  · rw [settled_of_ne]
    show known.lookup name ≠ _
    rw [hlookup]
    exact fun h => by cases h

/-- The loop in closed form. -/
theorem foldlM_provisionRule {rules : List (String × EnrichedRule)} (hrules : Dict.Distinct rules)
    {db : Database} (hknown : KnownRows tenantId known rules db) :
    exists db', rules.foldlM (provisionRule tenantId known) db = .ok db' ∧
      db'.rules = db.rules.map (settled known rules) ++ created tenantId known db.nextId rules ∧
      (created tenantId known db.nextId rules = [] -> db'.nextId = db.nextId) := by
  induction rules generalizing db with
  | nil =>
      refine ⟨db, rfl, ?_, fun _ => rfl⟩
      rw [List.map_congr_left fun row _ => settled_of_missing rfl]
      simp [created]
  | cons rule rest ih =>
      rcases rule with ⟨name, rule⟩
      rcases List.nodup_cons.mp hrules with ⟨hfresh, hrest⟩
      rcases provisionRule_cases hknown with ⟨row, hlookup, hrow, hstep⟩ | ⟨hlookup, hstep⟩
      · have hname := hknown.name name row hlookup
        have htail : KnownRows tenantId known rest (db.writeRow tenantId row.id name rule) := by
          refine hknown.tail fun other hmem found hfound hin => ?_
          refine List.mem_map.mpr ⟨found, hin, ?_⟩
          rw [updatedRow_eq hrow (hknown.tenant name row hlookup) hin, if_neg]
          intro heq
          have hsame : other.1 = name := by rw [← hknown.name _ _ hfound, heq, hname]
          exact hfresh (List.mem_map.mpr ⟨other, hmem, hsame⟩)
        rcases ih hrest htail with ⟨db', hloop, hdb', hnext⟩
        have hcreated : created tenantId known db.nextId ((name, rule) :: rest) =
            created tenantId known db.nextId rest := by
          rw [created, hlookup]
        refine ⟨db', ?_, ?_, ?_⟩
        · rw [List.foldlM_cons, hstep]
          exact hloop
        · rw [hdb', hcreated, map_settled_writeRow hfresh hknown hlookup hrow]
          rfl
        · rw [hcreated]
          exact hnext
      · have htail : KnownRows tenantId known rest
            (db.createDeduplicationRule tenantId name rule) :=
          hknown.tail fun _ _ _ _ hin => List.mem_append_left _ hin
        rcases ih hrest htail with ⟨db', hloop, hdb', _⟩
        have hcreated : created tenantId known db.nextId ((name, rule) :: rest) =
            AlertDeduplicationRule.create db.nextId tenantId name rule ::
              created tenantId known (db.nextId + 1) rest := by
          rw [created, hlookup]
        refine ⟨db', ?_, ?_, ?_⟩
        · rw [List.foldlM_cons, hstep]
          exact hloop
        · rw [hdb', hcreated, map_settled_create hlookup, List.append_assoc]
          rfl
        · rw [hcreated]
          exact fun h => by cases h

theorem mem_created {rules : List (String × EnrichedRule)} {nextId : Nat}
    {row : AlertDeduplicationRule} (h : row ∈ created tenantId known nextId rules) :
    exists id rule, rule ∈ rules ∧ known.lookup rule.1 = none ∧
      row = AlertDeduplicationRule.create id tenantId rule.1 rule.2 := by
  induction rules generalizing nextId with
  | nil => cases h
  | cons rule rest ih =>
      rcases rule with ⟨name, rule⟩
      unfold created at h
      split at h
      · rcases ih h with ⟨id, found, hfound, hrest⟩
        exact ⟨id, found, List.mem_cons_of_mem _ hfound, hrest⟩
      · rename_i hlookup
        rcases List.mem_cons.mp h with heq | h
        · exact ⟨nextId, (name, rule), List.mem_cons_self, hlookup, heq⟩
        · rcases ih h with ⟨id, found, hfound, hrest⟩
          exact ⟨id, found, List.mem_cons_of_mem _ hfound, hrest⟩

/-- The rules of the loop that no known row has. -/
def newRules (known : List (String × AlertDeduplicationRule))
    (rules : List (String × EnrichedRule)) : List (String × EnrichedRule) :=
  rules.filter fun rule => (known.lookup rule.1).isNone

theorem created_views (rules : List (String × EnrichedRule)) (nextId : Nat) :
    (created tenantId known nextId rules).map AlertDeduplicationRule.view =
      (newRules known rules).map ruleView := by
  induction rules generalizing nextId with
  | nil => rfl
  | cons rule rest ih =>
      rcases rule with ⟨name, rule⟩
      unfold created newRules
      split
      · rename_i hlookup
        rw [List.filter_cons_of_neg (by simp [hlookup])]
        exact ih nextId
      · rename_i hlookup
        rw [List.filter_cons_of_pos (by simp [hlookup]), List.map_cons, List.map_cons,
          ih (nextId + 1), view_create]
        rfl

/-!
## One run
-/

/-- The provisioned rules of the tenant whose name is in the environment. -/
def claimed (tenantId : String) (names : List String) (db : Database) :
    List AlertDeduplicationRule :=
  (db.provisioned tenantId).filter fun row => names.contains row.name

def knownRules (tenantId : String) (db : Database) : List (String × AlertDeduplicationRule) :=
  index AlertDeduplicationRule.name (db.provisioned tenantId)

theorem lookup_knownRules {db : Database} {name : String} {row : AlertDeduplicationRule} :
    (knownRules tenantId db).lookup name = some row <->
      row ∈ latest AlertDeduplicationRule.name (db.provisioned tenantId) ∧ row.name = name :=
  Latest.lookup_index

theorem mem_of_known {db : Database} {name : String} {row : AlertDeduplicationRule}
    (h : (knownRules tenantId db).lookup name = some row) : row ∈ db.provisioned tenantId :=
  (Latest.latest_sublist _).subset (lookup_knownRules.mp h).1

theorem knownRows (db : Database) (rules : List (String × EnrichedRule)) :
    KnownRows tenantId (knownRules tenantId db) rules (deleteMissing tenantId rules db) where
  name := fun _ _ h => (lookup_knownRules.mp h).2
  tenant := fun _ _ h => tenant_of_mem (mem_of_known h)
  mem := by
    intro rule hrule row hrow
    rw [(deleteMissing_rules rules db).1]
    refine List.mem_filter.mpr ⟨(mem_provisioned.mp (mem_of_known hrow)).1, ?_⟩
    unfold isKept
    rw [(lookup_knownRules.mp hrow).2, Bool.or_eq_true]
    exact .inr (List.contains_iff_mem.mpr (List.mem_map.mpr ⟨rule, hrule, rfl⟩))

/-- The table after one run with enriched rules. -/
structure Provisioned (tenantId : String) (rules : List (String × EnrichedRule))
    (db db' : Database) : Prop where
  table : db'.rules =
    (db.rules.filter (isKept tenantId (rules.map Prod.fst))).map
        (settled (knownRules tenantId db) rules) ++
      created tenantId (knownRules tenantId db) db.nextId rules
  ids : created tenantId (knownRules tenantId db) db.nextId rules = [] ->
    db'.nextId = db.nextId

variable (tenantId) in
theorem loop_provisions {rules : List (String × EnrichedRule)} (hrules : Dict.Distinct rules)
    (db : Database) :
    exists db', rules.foldlM (provisionRule tenantId (knownRules tenantId db))
        (deleteMissing tenantId rules db) = .ok db' ∧ Provisioned tenantId rules db db' := by
  rcases foldlM_provisionRule hrules (knownRows db rules) with ⟨db', hloop, hrows, hnext⟩
  rw [(deleteMissing_rules rules db).1, (deleteMissing_rules rules db).2] at hrows
  rw [(deleteMissing_rules rules db).2] at hnext
  exact ⟨db', hloop, hrows, hnext⟩

theorem filter_isKept (names : List String) (db : Database) :
    (db.rules.filter (isKept tenantId names)).filter (fun row => row.isProvisionedOf tenantId) =
      claimed tenantId names db := by
  unfold claimed
  rw [provisioned_eq, List.filter_filter, List.filter_filter]
  apply List.filter_congr
  intro row _
  unfold isKept
  cases row.isProvisionedOf tenantId <;> simp

variable (tenantId) in
theorem filter_settled (rules : List (String × EnrichedRule))
    (rows : List AlertDeduplicationRule) (p : Bool -> Bool) :
    (rows.map (settled known rules)).filter (fun row => p (row.isProvisionedOf tenantId)) =
      (rows.filter fun row => p (row.isProvisionedOf tenantId)).map (settled known rules) := by
  rw [List.filter_map]
  congr 1
  apply List.filter_congr
  intro row _
  rw [Function.comp_apply, settled_isProvisionedOf rules row]

section Run

variable {rules : List (String × EnrichedRule)} {db db' : Database}

theorem isProvisionedOf_created {nextId : Nat} {row : AlertDeduplicationRule}
    (h : row ∈ created tenantId known nextId rules) : row.isProvisionedOf tenantId = true := by
  rcases mem_created h with ⟨id, rule, _, _, heq⟩
  rw [heq]
  unfold AlertDeduplicationRule.isProvisionedOf AlertDeduplicationRule.create
  simp

theorem Provisioned.provisioned (h : Provisioned tenantId rules db db') :
    db'.provisioned tenantId =
      (claimed tenantId (rules.map Prod.fst) db).map (settled (knownRules tenantId db) rules) ++
        created tenantId (knownRules tenantId db) db.nextId rules := by
  rw [provisioned_eq, h.table, List.filter_append, ← filter_isKept,
    List.filter_eq_self.mpr fun row hrow => isProvisionedOf_created hrow]
  congr 1
  exact filter_settled tenantId rules _ fun b => b

/-- The other rows stay. -/
theorem Provisioned.untouched (h : Provisioned tenantId rules db db') :
    db'.rules.filter (fun row => !(row.isProvisionedOf tenantId)) =
      db.rules.filter fun row => !(row.isProvisionedOf tenantId) := by
  have hcreated : (created tenantId (knownRules tenantId db) db.nextId rules).filter
      (fun row => !(row.isProvisionedOf tenantId)) = [] := by
    apply List.filter_eq_nil_iff.mpr
    intro row hrow
    rw [isProvisionedOf_created hrow]
    exact Bool.false_ne_true
  rw [h.table, List.filter_append, hcreated, List.append_nil,
    filter_settled tenantId rules _ not, List.filter_filter]
  have hfilter : db.rules.filter (fun row => !(row.isProvisionedOf tenantId) &&
      isKept tenantId (rules.map Prod.fst) row) =
      db.rules.filter fun row => !(row.isProvisionedOf tenantId) := by
    apply List.filter_congr
    intro row _
    unfold isKept
    cases row.isProvisionedOf tenantId <;> rfl
  rw [hfilter]
  refine (List.map_congr_left fun row hrow => settled_of_ne ?_).trans (List.map_id _)
  intro hknown
  have hnot := (List.mem_filter.mp hrow).2
  rw [(mem_provisioned.mp (mem_of_known hknown)).2] at hnot
  cases hnot

theorem latest_claimed (names : List String) (db : Database) :
    latest AlertDeduplicationRule.name (claimed tenantId names db) =
      (latest AlertDeduplicationRule.name (db.provisioned tenantId)).filter fun row =>
        names.contains row.name :=
  Latest.latest_filter fun a b _ _ h => by rw [h]

/-- A row that the loop provisions. -/
theorem settled_latest (hrules : Dict.Distinct rules) {row : AlertDeduplicationRule}
    (h : row ∈ latest AlertDeduplicationRule.name
      (claimed tenantId (rules.map Prod.fst) db)) :
    exists rule, (row.name, rule) ∈ rules ∧ (knownRules tenantId db).lookup row.name = some row ∧
      settled (knownRules tenantId db) rules row = row.provision rule row.name := by
  rw [latest_claimed] at h
  rcases List.mem_filter.mp h with ⟨hlatest, hname⟩
  rcases List.mem_map.mp (List.contains_iff_mem.mp hname) with ⟨⟨name, rule⟩, hrule, heq⟩
  have heq : name = row.name := heq
  rw [heq] at hrule
  have hknown : (knownRules tenantId db).lookup row.name = some row :=
    lookup_knownRules.mpr ⟨hlatest, rfl⟩
  exact ⟨rule, hrule, hknown, settled_of_mem hknown (hrules.lookup.mpr hrule)⟩

theorem nodup_provisioned (db : Database) : (db.provisioned tenantId).Nodup := by
  rw [provisioned_eq]
  exact db.distinct.of_map.filter _

/-- A replaced row is not the known row of its name. -/
theorem settled_shadowed {row : AlertDeduplicationRule} {names : List String}
    (h : row ∈ shadowed AlertDeduplicationRule.name (claimed tenantId names db)) :
    settled (knownRules tenantId db) rules row = row := by
  have hperm := Latest.perm_latest_shadowed AlertDeduplicationRule.name
    (claimed tenantId names db)
  have hnodup := hperm.nodup_iff.mp ((nodup_provisioned db).filter _)
  have hclaimed : row ∈ claimed tenantId names db := hperm.mem_iff.mpr (List.mem_append_right _ h)
  apply settled_of_ne
  intro hknown
  have hlatest : row ∈ latest AlertDeduplicationRule.name (claimed tenantId names db) := by
    rw [latest_claimed]
    exact List.mem_filter.mpr ⟨(lookup_knownRules.mp hknown).1, (List.mem_filter.mp hclaimed).2⟩
  exact (List.nodup_append'.mp hnodup).2.2 hlatest h

/-- The known rows take the values of the rules that they are the known rows of. -/
theorem perm_latest (hrules : Dict.Distinct rules) :
    ((latest AlertDeduplicationRule.name (claimed tenantId (rules.map Prod.fst) db)).map
        fun row => (settled (knownRules tenantId db) rules row).view).Perm
      ((rules.filter fun rule => !((knownRules tenantId db).lookup rule.1).isNone).map
        ruleView) := by
  have hleft : ((latest AlertDeduplicationRule.name
      (claimed tenantId (rules.map Prod.fst) db)).map
        fun row => (settled (knownRules tenantId db) rules row).view).Nodup := by
    apply List.Nodup.of_map View.name
    rw [List.map_map]
    have hnames : View.name ∘ (fun row => (settled (knownRules tenantId db) rules row).view) =
        AlertDeduplicationRule.name :=
      funext fun row => settled_name rules row
    rw [hnames]
    exact Latest.nodup_keys_latest _
  have hright : ((rules.filter fun rule => !((knownRules tenantId db).lookup rule.1).isNone).map
      ruleView).Nodup := by
    apply List.Nodup.of_map View.name
    rw [List.map_map]
    exact hrules.sublist (List.filter_sublist.map Prod.fst)
  rw [List.perm_ext_iff_of_nodup hleft hright]
  intro view
  rw [List.mem_map, List.mem_map]
  constructor
  · rintro ⟨row, hrow, rfl⟩
    rcases settled_latest hrules hrow with ⟨rule, hrule, hknown, hsettled⟩
    refine ⟨(row.name, rule), List.mem_filter.mpr ⟨hrule, by rw [hknown]; rfl⟩, ?_⟩
    rw [hsettled, view_provision]
  · rintro ⟨⟨name, rule⟩, hmem, rfl⟩
    rcases List.mem_filter.mp hmem with ⟨hrule, hsome⟩
    cases hknown : (knownRules tenantId db).lookup name with
    | none => simp [hknown] at hsome
    | some row =>
        rcases lookup_knownRules.mp hknown with ⟨hlatest, hname⟩
        have hlookup : rules.lookup row.name = some rule := by
          rw [hname]
          exact hrules.lookup.mpr hrule
        refine ⟨row, ?_, ?_⟩
        · rw [latest_claimed]
          refine List.mem_filter.mpr ⟨hlatest, List.contains_iff_mem.mpr ?_⟩
          exact List.mem_map.mpr ⟨(name, rule), hrule, hname.symm⟩
        · rw [settled_of_mem (by rw [hname]; exact hknown) hlookup, view_provision, hname]

/-- The provisioned rules after a run: the replaced rows as they were, and the rules. -/
theorem Provisioned.perm_views (h : Provisioned tenantId rules db db')
    (hrules : Dict.Distinct rules) :
    ((db'.provisioned tenantId).map AlertDeduplicationRule.view).Perm
      ((shadowed AlertDeduplicationRule.name
          (claimed tenantId (rules.map Prod.fst) db)).map AlertDeduplicationRule.view ++
        rules.map ruleView) := by
  have hclaimed := (Latest.perm_latest_shadowed AlertDeduplicationRule.name
    (claimed tenantId (rules.map Prod.fst) db)).map
      fun row => (settled (knownRules tenantId db) rules row).view
  have hshadowed : (shadowed AlertDeduplicationRule.name
      (claimed tenantId (rules.map Prod.fst) db)).map
        (fun row => (settled (knownRules tenantId db) rules row).view) =
      (shadowed AlertDeduplicationRule.name
        (claimed tenantId (rules.map Prod.fst) db)).map AlertDeduplicationRule.view :=
    List.map_congr_left fun row hrow => by rw [settled_shadowed hrow]
  have hsplit : (rules.map ruleView).Perm
      ((rules.filter fun rule => !((knownRules tenantId db).lookup rule.1).isNone).map ruleView ++
        (newRules (knownRules tenantId db) rules).map ruleView) := by
    rw [← List.map_append]
    refine List.Perm.map _ (List.Perm.trans ?_ List.perm_append_comm)
    exact (List.filter_append_perm _ rules).symm
  rw [h.provisioned, List.map_append, List.map_map, created_views]
  rw [List.map_append, hshadowed] at hclaimed
  refine (hclaimed.append_right _).trans ?_
  refine (List.Perm.append_right _ List.perm_append_comm).trans ?_
  rw [List.append_assoc]
  exact ((perm_latest hrules).append_right _).trans hsplit.symm |>.append_left _

/-!
## A second run
-/

variable (tenantId) in
theorem created_eq_nil (nextId : Nat)
    (h : forall rule, rule ∈ rules -> (known.lookup rule.1).isSome = true) :
    created tenantId known nextId rules = [] := by
  induction rules generalizing nextId with
  | nil => rfl
  | cons rule rest ih =>
      rcases Option.isSome_iff_exists.mp (h rule List.mem_cons_self) with ⟨row, hrow⟩
      rw [created, hrow]
      exact ih _ fun r hr => h r (List.mem_cons_of_mem _ hr)

/-- Every rule has a provisioned row. -/
theorem Provisioned.isSome_known (h : Provisioned tenantId rules db db')
    {rule : String × EnrichedRule} (hrule : rule ∈ rules) :
    ((knownRules tenantId db').lookup rule.1).isSome = true := by
  have hname : rule.1 ∈ (db'.provisioned tenantId).map AlertDeduplicationRule.name := by
    rw [h.provisioned, List.map_append, List.mem_append]
    cases hknown : (knownRules tenantId db).lookup rule.1 with
    | some row =>
        have hrow : row.name = rule.1 := (lookup_knownRules.mp hknown).2
        refine .inl (List.mem_map.mpr ⟨_, List.mem_map.mpr ⟨row, ?_, rfl⟩, ?_⟩)
        · refine List.mem_filter.mpr ⟨mem_of_known hknown, List.contains_iff_mem.mpr ?_⟩
          exact List.mem_map.mpr ⟨rule, hrule, hrow.symm⟩
        · rw [settled_name rules row, hrow]
    | none =>
        have hview : ruleView rule ∈ (created tenantId (knownRules tenantId db) db.nextId
            rules).map AlertDeduplicationRule.view := by
          rw [created_views]
          exact List.mem_map_of_mem (List.mem_filter.mpr ⟨hrule, by rw [hknown]; rfl⟩)
        rcases List.mem_map.mp hview with ⟨row, hrow, hviews⟩
        exact .inr (List.mem_map.mpr ⟨row, hrow, congrArg View.name hviews⟩)
  rcases List.mem_map.mp (Latest.mem_keys_latest.mpr hname) with ⟨row, hrow, heq⟩
  exact Option.isSome_iff_exists.mpr ⟨row, lookup_knownRules.mpr ⟨hrow, heq⟩⟩

/-- The known rows of the new table have the values of their rules already. -/
theorem Provisioned.settled_again (h : Provisioned tenantId rules db db')
    (hrules : Dict.Distinct rules) (row : AlertDeduplicationRule) :
    settled (knownRules tenantId db') rules row = row := by
  rcases Classical.em ((knownRules tenantId db').lookup row.name = some row) with hknown | hne
  · cases hlookup : rules.lookup row.name with
    | none => exact settled_of_missing hlookup
    | some rule =>
        rw [settled_of_mem hknown hlookup]
        have hlatest := (lookup_knownRules.mp hknown).1
        rw [h.provisioned] at hlatest
        rcases Latest.mem_latest_append hlatest with hold | hnew
        · rw [Latest.latest_map fun r _ =>
            settled_name rules r] at hold
          rcases List.mem_map.mp hold with ⟨old, hmem, heq⟩
          rcases settled_latest hrules hmem with ⟨found, hfound, _, hsettled⟩
          rw [hsettled] at heq
          have hname : old.name = row.name :=
            (show (old.provision found old.name).name = row.name from
              congrArg AlertDeduplicationRule.name heq)
          rw [hname] at hfound heq
          rw [hrules.lookup.mpr hfound] at hlookup
          cases hlookup
          rw [← heq]
          rfl
        · rcases mem_created hnew with ⟨id, found, hfound, _, heq⟩
          have hname : found.1 = row.name := by rw [heq]; rfl
          have hfound' : (row.name, found.2) ∈ rules := by rw [← hname]; exact hfound
          rw [hrules.lookup.mpr hfound'] at hlookup
          cases hlookup
          rw [heq]
          rfl
  · exact settled_of_ne hne

theorem Provisioned.again {db'' : Database} (h : Provisioned tenantId rules db db')
    (hrules : Dict.Distinct rules) (hagain : Provisioned tenantId rules db' db'') : db'' = db' := by
  have hcreated := created_eq_nil tenantId db'.nextId fun rule hrule => h.isSome_known hrule
  refine Database.ext ?_ (hagain.ids hcreated)
  rw [hagain.table, hcreated, List.append_nil,
    List.map_congr_left fun row _ => h.settled_again hrules row, List.map_id']
  apply List.filter_eq_self.mpr
  intro row hrow
  rw [h.table] at hrow
  rcases List.mem_append.mp hrow with hold | hnew
  · rcases List.mem_map.mp hold with ⟨old, hmem, rfl⟩
    unfold isKept
    rw [settled_isProvisionedOf rules old, settled_name rules old]
    exact (List.mem_filter.mp hmem).2
  · rcases mem_created hnew with ⟨id, rule, hrule, _, rfl⟩
    unfold isKept
    rw [Bool.or_eq_true]
    exact .inr (List.contains_iff_mem.mpr (List.mem_map.mpr ⟨rule, hrule, rfl⟩))

end Run

end Deduplication
end KeepGateway
