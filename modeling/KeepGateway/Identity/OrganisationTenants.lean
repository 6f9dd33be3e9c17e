import KeepGateway.Identity.KeycloakAuthVerifier

/-!
# Tenants of organisations

What the loop over a caller's groups does to the tenants, and which tenant an organisation
is resolved to.
-/

namespace KeepGateway
namespace Identity

open Tenants (Tenant Database present)

/-- Ids of tenants are not empty, and neither is a role that is granted. -/
structure WellFormed (db : Database) : Prop where
  ids : forall t, t ∈ db.tenants -> t.id ≠ ""
  roles : forall g, g ∈ db.grants -> g.role ≠ ""

/-- What is relied on of `uuid4`: an id that is not empty and that no tenant has. -/
structure Fresh (uuid4 : List Tenant -> String) : Prop where
  nonempty : forall tenants, uuid4 tenants ≠ ""
  unused : forall tenants, uuid4 tenants ∉ tenants.map Tenant.id

theorem present_of_ne {value : String} (h : value ≠ "") : present (some value) = some value := by
  unfold present
  split
  · rename_i heq
    exact absurd (Option.some.inj heq) h
  · rfl

theorem ne_of_present {value : Option String} {s : String} (h : present value = some s) :
    value = some s ∧ s ≠ "" := by
  unfold present at h
  split at h
  · cases h
  · rename_i hne
    refine ⟨h, ?_⟩
    rintro rfl
    exact hne h

/-!
## Tenants that are held
-/

theorem load_db (s : VerifierState) : s.load.db = s.db := by
  unfold VerifierState.load
  split
  · rfl
  · rfl

theorem load_of_ne {s : VerifierState} (h : s.tenants ≠ []) : s.load = s := if_neg h

theorem load_of_nil {s : VerifierState} (h : s.tenants = []) : s.load = s.reload := if_pos h

theorem load_tenants_ne {s : VerifierState} (h : s.db.tenants ≠ []) : s.load.tenants ≠ [] := by
  unfold VerifierState.load
  split
  · intro hempty
    exact h (List.map_eq_nil_iff.mp hempty)
  · assumption

theorem load_load (s : VerifierState) : s.load.load = s.load := by
  rcases Classical.em (s.tenants = []) with hempty | hne
  · unfold VerifierState.load
    simp only [if_pos hempty]
    split
    · rfl
    · rfl
  · rw [load_of_ne hne, load_of_ne hne]

theorem set_of_not_mem {key : String} {value : Option String}
    {d : List (String × Option String)} (h : key ∉ d.map Prod.fst) :
    Dict.set key value d = d ++ [(key, value)] := by
  induction d with
  | nil => rfl
  | cons entry rest ih =>
      rcases entry with ⟨k, v⟩
      rw [List.map_cons, List.mem_cons, not_or] at h
      rw [Dict.set, if_neg (Ne.symm h.1), ih h.2]
      rfl

/-- A name that the table lacks gets a new tenant, and another one nothing. -/
theorem createTenant_cases (uuid4 : List Tenant -> String) (name : String) (db : Database) :
    ((exists t, t ∈ db.tenants ∧ t.name = name) ∧ createTenant uuid4 name db = (none, db)) ∨
      ((forall t, t ∈ db.tenants -> t.name ≠ name) ∧
        createTenant uuid4 name db = (some (uuid4 db.tenants),
          { db with tenants := db.tenants ++ [⟨uuid4 db.tenants, name⟩] })) := by
  unfold createTenant
  rcases Classical.em (exists t, t ∈ db.tenants ∧ t.name = name) with hknown | hunknown
  · rcases hknown with ⟨t, ht, hname⟩
    refine .inl ⟨⟨t, ht, hname⟩, if_pos ?_⟩
    exact List.any_eq_true.mpr ⟨t, ht, decide_eq_true hname⟩
  · have hne : forall t, t ∈ db.tenants -> t.name ≠ name :=
      fun t ht hname => hunknown ⟨t, ht, hname⟩
    refine .inr ⟨hne, if_neg ?_⟩
    intro hany
    rcases List.any_eq_true.mp hany with ⟨t, ht, hname⟩
    exact hne t ht (of_decide_eq_true hname)

/-- Everything that `ensureTenant` can do: the name is held, or it is added with a new
tenant, or without an id where the table has it. -/
theorem ensureTenant_cases (uuid4 : List Tenant -> String) (name : String) (s : VerifierState) :
    (name ∈ s.load.tenants.map Prod.fst ∧ ensureTenant uuid4 name s = s.load) ∨
      (name ∉ s.load.tenants.map Prod.fst ∧ (exists t, t ∈ s.db.tenants ∧ t.name = name) ∧
        ensureTenant uuid4 name s =
          { db := s.db, tenants := s.load.tenants ++ [(name, none)] }) ∨
      (name ∉ s.load.tenants.map Prod.fst ∧ (forall t, t ∈ s.db.tenants -> t.name ≠ name) ∧
        ensureTenant uuid4 name s =
          { db := { s.db with tenants := s.db.tenants ++ [⟨uuid4 s.db.tenants, name⟩] }
            tenants := s.load.tenants ++ [(name, some (uuid4 s.db.tenants))] }) := by
  unfold ensureTenant
  rcases Classical.em (name ∈ s.load.tenants.map Prod.fst) with hheld | hnew
  · exact .inl ⟨hheld, if_pos hheld⟩
  · refine .inr ?_
    simp only [if_neg hnew, load_db]
    rcases createTenant_cases uuid4 name s.db with ⟨hknown, hcreated⟩ | ⟨hunknown, hcreated⟩
    · refine .inl ⟨hnew, hknown, ?_⟩
      have hload : { s.load with db := s.db }.load = s.load := by
        rw [← load_db s]
        exact load_load s
      rw [hcreated]
      simp only [hload]
      rw [set_of_not_mem hnew]
    · refine .inr ⟨hnew, hunknown, ?_⟩
      rw [hcreated]
      simp only
      rcases Classical.em (s.load.tenants = []) with hempty | hne
      · have hnone : s.db.tenants = [] := by
          rcases Classical.em (s.db.tenants = []) with h | h
          · exact h
          · exact absurd hempty (load_tenants_ne h)
        have hload : forall db : Database, { s.load with db := db }.load =
            { db := db, tenants := VerifierState.table db } := fun db => load_of_nil hempty
        rw [hload, hempty, hnone]
        simp only [VerifierState.table, List.nil_append, List.map_cons,
          List.map_nil, Dict.set, if_true]
      · have hload : forall db : Database, { s.load with db := db }.load =
            { s.load with db := db } := fun db => load_of_ne hne
        rw [hload]
        simp only
        rw [set_of_not_mem hnew]

/-!
## The loop over the groups
-/

section Groups

variable (config : KeycloakConfig) (lower : String -> String) (uuid4 : List Tenant -> String)

/-- The groups that represent organisations, in lower case. -/
def orgGroups (groups : List String) : List String :=
  (groups.map lower).filter fun group => checkIfGroupRepresentsOrg config group

def ensureTenants (names : List String) (s : VerifierState) : VerifierState :=
  names.foldl (fun s name => ensureTenant uuid4 name s) s

theorem scanGroup_org {group : String}
    (h : checkIfGroupRepresentsOrg config (lower group) = true) (scan : GroupScan) :
    (scanGroup config lower uuid4 scan group).groupsThatRepresentOrgs =
        scan.groupsThatRepresentOrgs ++ [lower group] ∧
      (scanGroup config lower uuid4 scan group).state =
        ensureTenant uuid4 (getOrgName config (lower group)) scan.state := by
  unfold scanGroup
  simp only
  rw [if_pos h]
  exact ⟨rfl, rfl⟩

theorem scanGroup_other {group : String}
    (h : checkIfGroupRepresentsOrg config (lower group) = false) (scan : GroupScan) :
    scanGroup config lower uuid4 scan group = scan := by
  unfold scanGroup
  simp only [h]
  exact if_neg Bool.false_ne_true

theorem scan_spec (groups : List String) (scan : GroupScan) :
    (groups.foldl (scanGroup config lower uuid4) scan).groupsThatRepresentOrgs =
        scan.groupsThatRepresentOrgs ++ orgGroups config lower groups ∧
      (groups.foldl (scanGroup config lower uuid4) scan).state =
        ensureTenants uuid4 ((orgGroups config lower groups).map (getOrgName config))
          scan.state := by
  induction groups generalizing scan with
  | nil => exact ⟨(List.append_nil _).symm, rfl⟩
  | cons group rest ih =>
      rw [List.foldl_cons]
      rcases ih (scanGroup config lower uuid4 scan group) with ⟨hgroups, hstate⟩
      rw [hgroups, hstate]
      unfold orgGroups
      rw [List.map_cons, List.filter_cons]
      cases hcheck : checkIfGroupRepresentsOrg config (lower group) with
      | true =>
          rcases scanGroup_org config lower uuid4 hcheck scan with ⟨horg, hensured⟩
          rw [horg, hensured, if_pos rfl, List.append_assoc]
          exact ⟨rfl, rfl⟩
      | false =>
          rw [scanGroup_other config lower uuid4 hcheck scan, if_neg Bool.false_ne_true]
          exact ⟨rfl, rfl⟩

theorem scanGroups_spec (groups : List String) (s : VerifierState) :
    (scanGroups config lower uuid4 groups s).groupsThatRepresentOrgs =
        orgGroups config lower groups ∧
      (scanGroups config lower uuid4 groups s).state =
        ensureTenants uuid4 ((orgGroups config lower groups).map (getOrgName config)) s :=
  scan_spec config lower uuid4 groups ⟨s, [], []⟩

end Groups

section Ensure

variable {uuid4 : List Tenant -> String}

/-- What every organisation of the loop preserves, the loop preserves. -/
theorem ensureTenants_invariant (p : VerifierState -> Prop)
    (hstep : forall name s, p s -> p (ensureTenant uuid4 name s)) (names : List String)
    {s : VerifierState} (hs : p s) : p (ensureTenants uuid4 names s) := by
  induction names generalizing s with
  | nil => exact hs
  | cons name rest ih => exact ih (hstep name s hs)

theorem ensureTenant_grants (name : String) (s : VerifierState) :
    (ensureTenant uuid4 name s).db.grants = s.db.grants := by
  rcases ensureTenant_cases uuid4 name s with ⟨_, heq⟩ | ⟨_, _, heq⟩ | ⟨_, _, heq⟩
  · rw [heq, load_db]
  · rw [heq]
  · rw [heq]

theorem mem_ensureTenant {t : Tenant} {s : VerifierState} (h : t ∈ s.db.tenants)
    (name : String) : t ∈ (ensureTenant uuid4 name s).db.tenants := by
  rcases ensureTenant_cases uuid4 name s with ⟨_, heq⟩ | ⟨_, _, heq⟩ | ⟨_, _, heq⟩
  · rw [heq, load_db]
    exact h
  · rw [heq]
    exact h
  · rw [heq]
    exact List.mem_append_left _ h

theorem ensureTenant_wellFormed (hfresh : Fresh uuid4) (name : String) (s : VerifierState)
    (h : WellFormed s.db) : WellFormed (ensureTenant uuid4 name s).db := by
  rcases ensureTenant_cases uuid4 name s with ⟨_, heq⟩ | ⟨_, _, heq⟩ | ⟨_, _, heq⟩
  · rw [heq, load_db]
    exact h
  · rw [heq]
    exact h
  · rw [heq]
    refine ⟨?_, h.roles⟩
    intro t ht
    rcases List.mem_append.mp ht with ht | ht
    · exact h.ids t ht
    · rw [List.mem_singleton.mp ht]
      exact hfresh.nonempty _

theorem orgName_append {tenantId : String} {entry : String × Option String}
    (h : entry.2 ≠ some tenantId) (db db' : Database) (held : List (String × Option String)) :
    VerifierState.getOrgNameByTenantId ⟨db', held ++ [entry]⟩ tenantId =
      VerifierState.getOrgNameByTenantId ⟨db, held⟩ tenantId := by
  unfold VerifierState.getOrgNameByTenantId
  rw [List.find?_append, List.find?_cons_of_neg (by simpa using h), List.find?_nil, Option.or_none]

/-- The name under which a tenant of the table is held stays the same. -/
theorem orgName_ensureTenant (hfresh : Fresh uuid4) {t : Tenant} (name : String)
    {s : VerifierState} (ht : t ∈ s.db.tenants) :
    (ensureTenant uuid4 name s).load.getOrgNameByTenantId t.id =
      s.load.getOrgNameByTenantId t.id := by
  have hne : s.load.tenants ≠ [] := load_tenants_ne (List.ne_nil_of_mem ht)
  rcases ensureTenant_cases uuid4 name s with ⟨_, heq⟩ | ⟨_, _, heq⟩ | ⟨_, _, heq⟩
  · rw [heq, load_load]
  · rw [heq, load_of_ne (List.append_ne_nil_of_left_ne_nil hne _)]
    exact orgName_append (fun h => by cases h) _ _ _
  · rw [heq, load_of_ne (List.append_ne_nil_of_left_ne_nil hne _)]
    refine orgName_append ?_ _ _ _
    intro h
    refine hfresh.unused s.db.tenants ?_
    rw [Option.some.inj h]
    exact List.mem_map_of_mem ht

/-- The tenant that is activated, after the loop: its grants and the name it is held under. -/
theorem active_ensureTenants (hfresh : Fresh uuid4) {t : Tenant} (names : List String)
    {s : VerifierState} (ht : t ∈ s.db.tenants) :
    (ensureTenants uuid4 names s).db.grants = s.db.grants ∧
      (ensureTenants uuid4 names s).load.getOrgNameByTenantId t.id =
        s.load.getOrgNameByTenantId t.id := by
  refine (ensureTenants_invariant (fun s' => t ∈ s'.db.tenants ∧ s'.db.grants = s.db.grants ∧
    s'.load.getOrgNameByTenantId t.id = s.load.getOrgNameByTenantId t.id) ?_ names
    ⟨ht, rfl, rfl⟩).2
  rintro name s' ⟨hmem, hgrants, hname⟩
  exact ⟨mem_ensureTenant hmem name, (ensureTenant_grants name s').trans hgrants,
    (orgName_ensureTenant hfresh name hmem).trans hname⟩

end Ensure

/-!
## The tenant of an organisation
-/

/-- What the verifier holds for a name is the tenant of that name in the table. -/
def HeldAgrees (name : String) (s : VerifierState) : Prop :=
  match s.load.tenants.lookup name with
  | none => True
  | some held =>
      match present held with
      | some tenantId => (⟨tenantId, name⟩ : Tenant) ∈ s.db.tenants
      | none => exists t, t ∈ s.db.tenants ∧ t.name = name

theorem lookup_table (name : String) (db : Database) :
    ((forall t, t ∈ db.tenants -> t.name ≠ name) ∧
        (VerifierState.table db).lookup name = none) ∨
      exists t, t ∈ db.tenants ∧ t.name = name ∧
        (VerifierState.table db).lookup name = some (some t.id) := by
  unfold VerifierState.table
  induction db.tenants with
  | nil => exact .inl ⟨fun _ h => (by cases h), rfl⟩
  | cons first rest ih =>
      rw [List.map_cons, Dict.lookup_cons_eq]
      rcases Classical.em (first.name = name) with heq | hne
      · exact .inr ⟨first, List.mem_cons_self, heq, if_pos heq⟩
      · rw [if_neg hne]
        rcases ih with ⟨hall, hnone⟩ | ⟨t, ht, hname, hsome⟩
        · exact .inl ⟨List.forall_mem_cons.mpr ⟨hne, hall⟩, hnone⟩
        · exact .inr ⟨t, List.mem_cons_of_mem _ ht, hname, hsome⟩

theorem currentTenant_db (name : String) (s : VerifierState) :
    (currentTenant name s).2.db = s.db := by
  unfold currentTenant
  split
  · rfl
  · split
    · rfl
    · simp only
      split
      · rfl
      · split
        · rfl
        · rfl

theorem currentTenant_ne_empty {name tenantId : String} {s : VerifierState}
    (h : (currentTenant name s).1 = .ok tenantId) : tenantId ≠ "" := by
  unfold currentTenant at h
  split at h
  · cases h
  · split at h
    · rename_i hpresent
      cases h
      exact (ne_of_present hpresent).2
    · simp only at h
      split at h
      · cases h
      · split at h
        · rename_i hpresent
          cases h
          exact (ne_of_present hpresent).2
        · cases h

/-- A name that is held is resolved to the tenant of that name exactly when what is held
agrees with the table. -/
theorem currentTenant_iff {name : String} {s : VerifierState} (hwell : WellFormed s.db)
    (hloaded : s.load = s) (hheld : name ∈ s.tenants.map Prod.fst) :
    (exists tenantId, (currentTenant name s).1 = .ok tenantId ∧
        (⟨tenantId, name⟩ : Tenant) ∈ s.db.tenants) <-> HeldAgrees name s := by
  unfold HeldAgrees currentTenant
  rw [hloaded]
  cases hlookup : s.tenants.lookup name with
  | none => exact absurd hheld (Dict.lookup_eq_none.mp hlookup)
  | some held =>
      simp only
      cases hpresent : present held with
      | some tenantId =>
          constructor
          · rintro ⟨found, hfound, hmem⟩
            cases hfound
            exact hmem
          · intro hmem
            exact ⟨tenantId, rfl, hmem⟩
      | none =>
          simp only [VerifierState.reload]
          rcases lookup_table name s.db with ⟨hall, hnone⟩ | ⟨t, ht, hname, hsome⟩
          · rw [hnone]
            constructor
            · rintro ⟨_, hfound, _⟩
              cases hfound
            · rintro ⟨t, ht, hname⟩
              exact absurd hname (hall t ht)
          · rw [hsome]
            simp only [present_of_ne (hwell.ids t ht)]
            constructor
            · intro _
              exact ⟨t, ht, hname⟩
            · intro _
              refine ⟨t.id, rfl, ?_⟩
              rw [← hname]
              exact ht

section Resolve

variable {uuid4 : List Tenant -> String}

theorem held_ensureTenant (name : String) (s : VerifierState) :
    name ∈ (ensureTenant uuid4 name s).tenants.map Prod.fst := by
  rcases ensureTenant_cases uuid4 name s with ⟨hheld, heq⟩ | ⟨_, _, heq⟩ | ⟨_, _, heq⟩
  · rw [heq]
    exact hheld
  · rw [heq, List.map_append]
    exact List.mem_append_right _ List.mem_cons_self
  · rw [heq, List.map_append]
    exact List.mem_append_right _ List.mem_cons_self

theorem ensureTenant_loaded (name : String) (s : VerifierState) :
    (ensureTenant uuid4 name s).load = ensureTenant uuid4 name s := by
  have hne := List.ne_nil_of_mem (@held_ensureTenant uuid4 name s)
  exact load_of_ne fun hempty => hne (by rw [hempty]; rfl)

theorem held_of_held {name other : String} {s : VerifierState}
    (h : name ∈ s.load.tenants.map Prod.fst) :
    name ∈ (ensureTenant uuid4 other s).tenants.map Prod.fst := by
  rcases ensureTenant_cases uuid4 other s with ⟨_, heq⟩ | ⟨_, _, heq⟩ | ⟨_, _, heq⟩
  · rw [heq]
    exact h
  · rw [heq, List.map_append]
    exact List.mem_append_left _ h
  · rw [heq, List.map_append]
    exact List.mem_append_left _ h

theorem lookup_append_ne {name other : String} (h : other ≠ name) (value : Option String)
    (held : List (String × Option String)) :
    (held ++ [(other, value)]).lookup name = held.lookup name := by
  induction held with
  | nil =>
      rw [List.nil_append, Dict.lookup_cons_eq, if_neg h]
  | cons entry rest ih =>
      rcases entry with ⟨k, v⟩
      rw [List.cons_append, Dict.lookup_cons_eq, Dict.lookup_cons_eq, ih]

theorem lookup_append_self {name : String} {held : List (String × Option String)}
    (h : name ∉ held.map Prod.fst) (value : Option String) :
    (held ++ [(name, value)]).lookup name = some value := by
  rw [← set_of_not_mem h]
  exact Dict.lookup_set_self name value held

/-- Ensuring a tenant changes nothing of whether what is held agrees with the table. -/
theorem heldAgrees_ensureTenant (hfresh : Fresh uuid4) (name other : String)
    (s : VerifierState) :
    HeldAgrees name (ensureTenant uuid4 other s) <-> HeldAgrees name s := by
  unfold HeldAgrees
  rw [ensureTenant_loaded]
  rcases ensureTenant_cases uuid4 other s with
    ⟨_, heq⟩ | ⟨hnew, hknown, heq⟩ | ⟨hnew, hunknown, heq⟩
  · rw [heq, load_db]
  · rw [heq]
    simp only
    rcases Classical.em (other = name) with hsame | hne
    · rw [← hsame, lookup_append_self hnew, Dict.lookup_eq_none.mpr hnew]
      exact ⟨fun _ => trivial, fun _ => hknown⟩
    · rw [lookup_append_ne hne]
  · rw [heq]
    simp only
    rcases Classical.em (other = name) with hsame | hne
    · rw [← hsame, lookup_append_self hnew, Dict.lookup_eq_none.mpr hnew]
      simp only [present_of_ne (hfresh.nonempty s.db.tenants)]
      exact ⟨fun _ => trivial, fun _ => List.mem_append_right _ List.mem_cons_self⟩
    · rw [lookup_append_ne hne]
      have hmem : forall t : Tenant, t.name = name ->
          (t ∈ s.db.tenants ++ [⟨uuid4 s.db.tenants, other⟩] <-> t ∈ s.db.tenants) := by
        intro t hname
        rw [List.mem_append, List.mem_singleton]
        constructor
        · rintro (h | rfl)
          · exact h
          · exact absurd hname hne
        · exact .inl
      cases s.load.tenants.lookup name with
      | none => exact Iff.rfl
      | some held =>
          simp only
          cases present held with
          | some tenantId => exact hmem _ rfl
          | none =>
              constructor
              · rintro ⟨t, ht, hname⟩
                exact ⟨t, (hmem t hname).mp ht, hname⟩
              · rintro ⟨t, ht, hname⟩
                exact ⟨t, (hmem t hname).mpr ht, hname⟩

/-- The first organisation of the loop is resolved, after the loop, to the tenant of its
name exactly when what the verifier held before agrees with the table. -/
theorem currentTenant_ensureTenants (hfresh : Fresh uuid4) (name : String)
    (names : List String) {s : VerifierState} (hwell : WellFormed s.db) :
    (exists tenantId,
        (currentTenant name (ensureTenants uuid4 (name :: names) s).load).1 = .ok tenantId ∧
        (⟨tenantId, name⟩ : Tenant) ∈
          (ensureTenants uuid4 (name :: names) s).db.tenants) <-> HeldAgrees name s := by
  have hinv := @ensureTenants_invariant uuid4
    (fun s' => s'.load = s' ∧ name ∈ s'.tenants.map Prod.fst ∧ WellFormed s'.db ∧
      (HeldAgrees name s' <-> HeldAgrees name s))
  have hend := hinv (by
    rintro other s' ⟨hloaded, hheld, hwell', hagrees⟩
    rw [← hloaded] at hheld
    exact ⟨ensureTenant_loaded other s', held_of_held hheld,
      ensureTenant_wellFormed hfresh other s' hwell',
      (heldAgrees_ensureTenant hfresh name other s').trans hagrees⟩)
    names ⟨ensureTenant_loaded name s, held_ensureTenant name s,
      ensureTenant_wellFormed hfresh name s hwell, heldAgrees_ensureTenant hfresh name name s⟩
  rcases hend with ⟨hloaded, hheld, hwell', hagrees⟩
  show (exists tenantId, (currentTenant name (ensureTenants uuid4 names
      (ensureTenant uuid4 name s)).load).1 = .ok tenantId ∧ _) <-> _
  rw [hloaded, ← hagrees]
  exact currentTenant_iff hwell' hloaded hheld

end Resolve

end Identity
end KeepGateway
