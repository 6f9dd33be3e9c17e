import KeepGateway.Identity.ResourcePermissions
import KeepGateway.Lib.Except
import KeepGateway.Lib.Spans

/-!
# Granting permissions again

What the policies of a permission are after a call, and when that is what was asked for.
-/

namespace KeepGateway
namespace Identity
namespace Permissions

/-!
## The policies of one permission
-/

theorem resolve_group {realm : Realm} {entity : PermissionEntity} {group : String}
    (h : resolve realm entity = .ok (.group group)) :
    entity.type ≠ "user" ∧ realm.searchGroups entity.id = [group] := by
  unfold resolve at h
  split at h
  · split at h
    · cases h
    · cases h
  · rename_i htype
    split at h
    · rename_i hfound
      cases h
      exact ⟨htype, hfound⟩
    · cases h

/-- Within a permission, a policy name belongs to one subject. -/
theorem subject_of_policyName {realm : Realm} {permission : ResourcePermission}
    {entity other : PermissionEntity} {subject subject' : Subject}
    (hentity : resolve realm entity = .ok subject) (hother : resolve realm other = .ok subject')
    (h : policyName permission entity subject = policyName permission other subject') :
    subject = subject' := by
  cases subject with
  | user id =>
      cases subject' with
      | user id' =>
          have hid := (String.append_right_inj _).mp h
          rw [(String.append_left_inj _).mp hid]
      | group id' =>
          have hlist := congrArg String.toList h
          simp [policyName] at hlist
  | group id =>
      cases subject' with
      | user id' =>
          have hlist := congrArg String.toList h
          simp [policyName] at hlist
      | group id' =>
          have hid := (String.append_left_inj _).mp ((String.append_right_inj _).mp h)
          have hfound := (resolve_group hentity).2
          rw [hid, (resolve_group hother).2] at hfound
          rw [(List.cons.inj hfound).1]

/-- The policies that are created for entities. -/
structure Creates (realm : Realm) (permission : ResourcePermission) (store : Store)
    (entities : List PermissionEntity) (created : List Policy) : Prop where
  runs : createPolicies realm permission store entities =
    ({ store with policies := store.policies ++ created },
      .ok (List.range' store.policies.length created.length))
  names : forall name, name ∈ created.map Policy.name <->
    name ∉ store.policies.map Policy.name ∧
      exists entity, entity ∈ entities ∧ exists subject, resolve realm entity = .ok subject ∧
        policyName permission entity subject = name
  subjects : forall policy, policy ∈ created ->
    exists entity, entity ∈ entities ∧ resolve realm entity = .ok policy.subject ∧
      policyName permission entity policy.subject = policy.name

section Creates

variable {realm : Realm} {permission : ResourcePermission} {entities : List PermissionEntity}
  {store : Store} {created : List Policy} {entity : PermissionEntity} {subject : Subject}

theorem creates_nil : Creates realm permission store [] [] := by
  refine ⟨?_, ?_, ?_⟩
  · rw [List.append_nil]
    rfl
  · intro name
    simp
  · intro policy hmem
    cases hmem

/-- A policy that is stored is not created again. -/
theorem Creates.skip (h : Creates realm permission store entities created)
    (hsubject : resolve realm entity = .ok subject)
    (htaken : policyName permission entity subject ∈ store.policies.map Policy.name) :
    Creates realm permission store (entity :: entities) created := by
  refine ⟨?_, ?_, ?_⟩
  · unfold createPolicies
    rw [hsubject]
    unfold Store.createPolicy
    dsimp only
    rw [if_pos htaken]
    dsimp only
    rw [h.runs]
    rfl
  · intro name
    rw [h.names]
    refine and_congr_right fun hname => ?_
    simp only [List.mem_cons, or_and_right, exists_or, exists_eq_left]
    refine ⟨Or.inr, ?_⟩
    intro hlisted
    rcases hlisted with ⟨subject', hsubject', heq⟩ | hlater
    · rw [hsubject] at hsubject'
      cases hsubject'
      exact absurd (heq ▸ htaken) hname
    · exact hlater
  · intro policy hmem
    rcases h.subjects policy hmem with ⟨other, hother, hresolved⟩
    exact ⟨other, List.mem_cons_of_mem entity hother, hresolved⟩

/-- One that is not is the first of those created. -/
theorem Creates.add
    (h : Creates realm permission
      { store with policies := store.policies ++ [⟨policyName permission entity subject, subject⟩] }
      entities created)
    (hsubject : resolve realm entity = .ok subject)
    (hfresh : policyName permission entity subject ∉ store.policies.map Policy.name) :
    Creates realm permission store (entity :: entities)
      (⟨policyName permission entity subject, subject⟩ :: created) := by
  refine ⟨?_, ?_, ?_⟩
  · unfold createPolicies
    rw [hsubject]
    unfold Store.createPolicy
    dsimp only
    rw [if_neg hfresh]
    dsimp only
    rw [h.runs]
    simp [List.range'_succ, Except.map]
  · intro name
    rw [List.map_cons, List.mem_cons, h.names]
    simp only [List.mem_cons, or_and_right, exists_or, exists_eq_left, List.map_append,
      List.mem_append, List.map_singleton, List.not_mem_nil, or_false]
    constructor
    · intro hname
      rcases hname with hfirst | ⟨hname, hlater⟩
      · rw [hfirst]
        exact ⟨hfresh, Or.inl ⟨subject, hsubject, rfl⟩⟩
      · exact ⟨fun h => hname (Or.inl h), Or.inr hlater⟩
    · intro hlisted
      rcases hlisted with ⟨hname, ⟨subject', hsubject', heq⟩ | hlater⟩
      · rw [hsubject] at hsubject'
        cases hsubject'
        exact Or.inl heq.symm
      · rcases Classical.em (name = policyName permission entity subject) with hfirst | hother
        · exact Or.inl hfirst
        · exact Or.inr ⟨fun h => h.elim hname hother, hlater⟩
  · intro other hmem
    rcases List.mem_cons.mp hmem with hfirst | hlater
    · rw [hfirst]
      exact ⟨entity, List.mem_cons_self, hsubject, rfl⟩
    · rcases h.subjects other hlater with ⟨listed, hlisted, hresolved⟩
      exact ⟨listed, List.mem_cons_of_mem entity hlisted, hresolved⟩

end Creates

theorem exists_creates {realm : Realm} {permission : ResourcePermission}
    {entities : List PermissionEntity}
    (h : forall entity, entity ∈ entities -> exists subject, resolve realm entity = .ok subject)
    (store : Store) : exists created, Creates realm permission store entities created := by
  induction entities generalizing store with
  | nil => exact ⟨[], creates_nil⟩
  | cons entity rest ih =>
      rcases List.forall_mem_cons.mp h with ⟨⟨subject, hsubject⟩, hrest⟩
      rcases Classical.em (policyName permission entity subject ∈ store.policies.map Policy.name)
        with htaken | hfresh
      · rcases ih hrest store with ⟨created, hcreated⟩
        exact ⟨created, hcreated.skip hsubject htaken⟩
      · rcases ih hrest { store with
          policies := store.policies ++ [⟨policyName permission entity subject, subject⟩] } with
          ⟨created, hcreated⟩
        exact ⟨_, hcreated.add hsubject hfresh⟩

/-- Those in created policies are listed under a fresh name. -/
theorem Creates.mem_subjects {realm : Realm} {permission : ResourcePermission} {store : Store}
    {entities : List PermissionEntity} {created : List Policy}
    (h : Creates realm permission store entities created) {subject : Subject} :
    subject ∈ created.map Policy.subject <->
      exists entity, entity ∈ entities ∧ resolve realm entity = .ok subject ∧
        policyName permission entity subject ∉ store.policies.map Policy.name := by
  constructor
  · intro hmem
    rcases List.mem_map.mp hmem with ⟨policy, hpolicy, rfl⟩
    rcases h.subjects policy hpolicy with ⟨entity, hentity, hresolved, hname⟩
    refine ⟨entity, hentity, hresolved, ?_⟩
    rw [hname]
    exact ((h.names policy.name).mp (List.mem_map_of_mem hpolicy)).1
  · rintro ⟨entity, hentity, hresolved, hfresh⟩
    have hcreated := (h.names _).mpr ⟨hfresh, entity, hentity, subject, hresolved, rfl⟩
    rcases List.mem_map.mp hcreated with ⟨policy, hpolicy, hname⟩
    rcases h.subjects policy hpolicy with ⟨other, _, hother, hsame⟩
    rw [subject_of_policyName hresolved hother (hname.symm.trans hsame.symm)]
    exact List.mem_map_of_mem hpolicy

/-- The policies are then those before and those named for the entities. -/
theorem Creates.mem_names {realm : Realm} {permission : ResourcePermission} {store : Store}
    {created : List Policy} (h : Creates realm permission store permission.permissions created)
    (name : String) :
    name ∈ (store.policies ++ created).map Policy.name <->
      name ∈ store.policies.map Policy.name ∨ Names realm permission name := by
  rw [List.map_append, List.mem_append, h.names]
  constructor
  · exact Or.imp_right And.right
  · intro h
    rcases Classical.em (name ∈ store.policies.map Policy.name) with hold | hnew
    · exact Or.inl hold
    · exact Or.inr ⟨hnew, h.resolve_left hnew⟩

/-!
## One permission
-/

theorem Store.Valid.append {store : Store} (h : store.Valid) (resources : List Resource)
    (created : List Policy) :
    Store.Valid ⟨resources, store.policies ++ created, store.permissions⟩ := by
  refine ⟨h.names, ?_⟩
  intro permission hmem id hid
  have hold := h.applied permission hmem id hid
  show id < (store.policies ++ created).length
  rw [List.length_append]
  exact Nat.lt_add_right _ hold

theorem access_of_policies {store store' : Store} (h : store'.policies = store.policies)
    (permission : Permission) : store'.access permission = store.access permission := by
  unfold Store.access
  rw [h]

/-- Policies that are added do not change what is stored. -/
theorem access_append {store : Store} (hvalid : store.Valid) {permission : Permission}
    (hmem : permission ∈ store.permissions) (created : List Policy) :
    { store with policies := store.policies ++ created }.access permission =
      store.access permission := by
  refine List.filterMap_congr fun id hid => ?_
  show (store.policies ++ created)[id]?.map _ = _
  rw [List.getElem?_append_left (hvalid.applied permission hmem id hid)]

theorem hasAccess_append {store : Store} (hvalid : store.Valid) (resources : List Resource)
    (created : List Policy) (name : String) (subject : Subject) :
    Store.HasAccess ⟨resources, store.policies ++ created, store.permissions⟩ name subject <->
      store.HasAccess name subject := by
  refine exists_congr fun other => and_congr_right fun hmem => and_congr_right fun _ => ?_
  rw [← access_append hvalid hmem created]
  rfl

/-- The places after the first list are those of the second. -/
theorem filterMap_places {α β : Type} (f : α -> β) (before created : List α) :
    (List.range' before.length created.length).filterMap
        (fun i => (before ++ created)[i]?.map f) = created.map f := by
  induction created generalizing before with
  | nil => rfl
  | cons first rest ih =>
      have hfirst : (before ++ first :: rest)[before.length]? = some first := by simp
      have hrest := ih (before ++ [first])
      rw [List.length_append, List.length_singleton, List.append_assoc] at hrest
      rw [List.length_cons, List.range'_succ, List.filterMap_cons_some (by rw [hfirst]; rfl),
        List.map_cons]
      exact congrArg (f first :: ·) hrest

/-- New policies are applied. -/
theorem access_created {store : Store} (created : List Policy) (name : String)
    (resources : List String) :
    { store with policies := store.policies ++ created }.access
        ⟨name, resources, List.range' store.policies.length created.length⟩ =
      created.map Policy.subject :=
  filterMap_places Policy.subject store.policies created

section Apply

variable {existing : List String} {permission : ResourcePermission} {policies : List Nat}
  {store : Store}

theorem applyPolicies_policies :
    (store.applyPolicies existing permission policies).1.policies = store.policies := by
  unfold Store.applyPolicies
  dsimp only
  split
  · rfl
  · split <;> rfl

theorem applyPolicies_isOk :
    (store.applyPolicies existing permission policies).2 = .ok () <->
      permissionName permission ∈ existing ∨
        permissionName permission ∉ store.permissions.map Permission.name := by
  unfold Store.applyPolicies
  dsimp only
  split
  · rename_i h
    exact iff_of_true rfl (Or.inl h)
  · rename_i h
    split
    · rename_i htaken
      refine iff_of_false (fun hok => ?_) (not_or_intro h (not_not_intro htaken))
      cases hok
    · rename_i hfree
      exact iff_of_true rfl (Or.inr hfree)

/-- An update keeps the names. -/
theorem names_update (permissions : List Permission) (stored : Permission) :
    (permissions.map fun other => if other.name = stored.name then stored else other).map
      Permission.name = permissions.map Permission.name := by
  rw [List.map_map]
  refine List.map_congr_left fun other _ => ?_
  show (if other.name = stored.name then stored else other).name = other.name
  split
  · rename_i h
    exact h.symm
  · rfl

/-- What is stored is the permission and the others. -/
theorem mem_applyPolicies
    (hexisting : forall name, name ∈ existing -> name ∈ store.permissions.map Permission.name)
    (hok : (store.applyPolicies existing permission policies).2 = .ok ()) (other : Permission) :
    other ∈ (store.applyPolicies existing permission policies).1.permissions <->
      other = storedPermission permission policies ∨
        other ∈ store.permissions ∧ other.name ≠ permissionName permission := by
  unfold Store.applyPolicies at hok ⊢
  dsimp only at hok ⊢
  rcases Classical.em ((storedPermission permission policies).name ∈ existing) with hold | hnew
  · rw [if_pos hold]
    constructor
    · intro hmem
      rcases List.mem_map.mp hmem with ⟨before, hbefore, heq⟩
      split at heq
      · exact Or.inl heq.symm
      · rename_i hname
        rw [← heq]
        exact Or.inr ⟨hbefore, hname⟩
    · rintro (hstored | ⟨hmem, hname⟩)
      · rcases List.mem_map.mp (hexisting _ hold) with ⟨before, hbefore, hname⟩
        rw [hstored]
        exact List.mem_map.mpr ⟨before, hbefore, if_pos hname⟩
      · exact List.mem_map.mpr ⟨other, hmem, if_neg hname⟩
  · rw [if_neg hnew] at hok ⊢
    split at hok
    · cases hok
    · rename_i hfree
      rw [if_neg hfree]
      show other ∈ store.permissions ++ [storedPermission permission policies] <-> _
      rw [List.mem_append, List.mem_singleton, or_comm]
      refine or_congr_right ⟨fun hmem => ⟨hmem, fun hname => hfree ?_⟩, And.left⟩
      exact List.mem_map.mpr ⟨other, hmem, hname⟩

theorem names_applyPolicies
    (hexisting : forall name, name ∈ existing -> name ∈ store.permissions.map Permission.name)
    (hok : (store.applyPolicies existing permission policies).2 = .ok ()) (name : String) :
    name ∈ (store.applyPolicies existing permission policies).1.permissions.map Permission.name <->
      name = permissionName permission ∨ name ∈ store.permissions.map Permission.name := by
  have hmem := mem_applyPolicies hexisting hok
  constructor
  · intro h
    rcases List.mem_map.mp h with ⟨other, hother, heq⟩
    rcases (hmem other).mp hother with hstored | ⟨hold, _⟩
    · rw [← heq, hstored]
      exact Or.inl rfl
    · rw [← heq]
      exact Or.inr (List.mem_map_of_mem hold)
  · intro h
    rcases Classical.em (name = permissionName permission) with heq | hne
    · rw [heq]
      exact List.mem_map.mpr ⟨_, (hmem _).mpr (Or.inl rfl), rfl⟩
    · rcases List.mem_map.mp (h.resolve_left hne) with ⟨other, hother, heq⟩
      rw [← heq] at hne ⊢
      exact List.mem_map_of_mem ((hmem other).mpr (Or.inr ⟨hother, hne⟩))

/-- The permission is then for those in its policies. -/
theorem hasAccess_applyPolicies
    (hexisting : forall name, name ∈ existing -> name ∈ store.permissions.map Permission.name)
    (hok : (store.applyPolicies existing permission policies).2 = .ok ()) (subject : Subject) :
    (store.applyPolicies existing permission policies).1.HasAccess
        (permissionName permission) subject <->
      subject ∈ store.access (storedPermission permission policies) := by
  have hmem := mem_applyPolicies hexisting hok
  constructor
  · intro h
    rcases h with ⟨other, hother, hname, hsubject⟩
    rw [access_of_policies applyPolicies_policies] at hsubject
    rcases (hmem other).mp hother with hstored | ⟨_, hne⟩
    · rw [hstored] at hsubject
      exact hsubject
    · exact absurd hname hne
  · intro h
    refine ⟨_, (hmem _).mpr (Or.inl rfl), rfl, ?_⟩
    rw [access_of_policies applyPolicies_policies]
    exact h

/-- The other permissions are as before. -/
theorem hasAccess_applyPolicies_of_ne
    (hexisting : forall name, name ∈ existing -> name ∈ store.permissions.map Permission.name)
    (hok : (store.applyPolicies existing permission policies).2 = .ok ()) {name : String}
    (hne : name ≠ permissionName permission) (subject : Subject) :
    (store.applyPolicies existing permission policies).1.HasAccess name subject <->
      store.HasAccess name subject := by
  have hmem := mem_applyPolicies hexisting hok
  constructor
  · intro h
    rcases h with ⟨other, hother, hname, hsubject⟩
    rw [access_of_policies applyPolicies_policies] at hsubject
    rcases (hmem other).mp hother with hstored | ⟨hold, _⟩
    · rw [hstored] at hname
      exact absurd hname.symm hne
    · exact ⟨other, hold, hname, hsubject⟩
  · intro h
    rcases h with ⟨other, hother, hname, hsubject⟩
    refine ⟨other, (hmem other).mpr (Or.inr ⟨hother, hname ▸ hne⟩), hname, ?_⟩
    rw [access_of_policies applyPolicies_policies]
    exact hsubject

theorem applyPolicies_valid (hvalid : store.Valid)
    (hpolicies : forall id, id ∈ policies -> id < store.policies.length) :
    (store.applyPolicies existing permission policies).1.Valid := by
  unfold Store.applyPolicies
  dsimp only
  split
  · constructor
    · dsimp only
      rw [names_update]
      exact hvalid.names
    · intro other hmem
      rcases List.mem_map.mp hmem with ⟨before, hbefore, heq⟩
      split at heq
      · rw [← heq]
        exact hpolicies
      · rw [← heq]
        exact hvalid.applied before hbefore
  · split
    · exact hvalid
    · rename_i hfree
      constructor
      · show (List.map Permission.name (store.permissions ++ [_])).Nodup
        rw [List.map_append, List.map_singleton, List.nodup_append']
        refine ⟨hvalid.names, List.nodup_singleton _, ?_⟩
        intro name hname hmem
        rw [List.mem_singleton.mp hmem] at hname
        exact hfree hname
      · intro other hmem
        rcases List.mem_append.mp hmem with hold | hnew
        · exact hvalid.applied other hold
        · rw [List.mem_singleton.mp hnew]
          exact hpolicies

end Apply

theorem createResource_eq (store : Store) (permission : ResourcePermission) :
    exists resources, store.createResource permission = { store with resources := resources } := by
  unfold Store.createResource
  split
  · exact ⟨store.resources, rfl⟩
  · exact ⟨_, rfl⟩

/-- A call for one permission, where its entities are resolved. -/
structure Steps (realm : Realm) (existing : List String) (store : Store)
    (permission : ResourcePermission) (after : Store × Except (Nat × String) Unit) : Prop where
  valid : after.1.Valid
  policyNames : forall name, name ∈ after.1.policies.map Policy.name <->
    name ∈ store.policies.map Policy.name ∨ Names realm permission name
  isOk : after.2 = .ok () <->
    permissionName permission ∈ existing ∨
      permissionName permission ∉ store.permissions.map Permission.name
  names : after.2 = .ok () -> forall name, name ∈ after.1.permissions.map Permission.name <->
    name = permissionName permission ∨ name ∈ store.permissions.map Permission.name
  granted : after.2 = .ok () -> forall subject,
    after.1.HasAccess (permissionName permission) subject <->
      ListsFresh realm store [] permission subject
  kept : after.2 = .ok () -> forall name, name ≠ permissionName permission -> forall subject,
    after.1.HasAccess name subject <-> store.HasAccess name subject

theorem createPermission_steps {realm : Realm} {existing : List String} {store : Store}
    {permission : ResourcePermission} (hvalid : store.Valid)
    (hexisting : forall name, name ∈ existing -> name ∈ store.permissions.map Permission.name)
    (hresolved : forall entity, entity ∈ permission.permissions ->
      exists subject, resolve realm entity = .ok subject) :
    Steps realm existing store permission
      (createPermission realm existing store permission) := by
  rcases createResource_eq store permission with ⟨resources, hresource⟩
  rcases @exists_creates realm permission _ hresolved { store with resources := resources } with
    ⟨created, hcreated⟩
  unfold createPermission
  rw [hresource, hcreated.runs]
  dsimp only
  let stored : Store := ⟨resources, store.policies ++ created, store.permissions⟩
  let places := List.range' store.policies.length created.length
  show Steps realm existing store permission (stored.applyPolicies existing permission places)
  have hplaces : forall id, id ∈ places -> id < stored.policies.length := by
    intro id hid
    rw [List.mem_range'_1] at hid
    show id < (store.policies ++ created).length
    rw [List.length_append]
    exact hid.2
  have hstored : stored.Valid := hvalid.append resources created
  have hnames : forall name, name ∈ existing -> name ∈ stored.permissions.map Permission.name :=
    hexisting
  have haccess : stored.access (storedPermission permission places) =
      created.map Policy.subject := access_created created _ _
  refine ⟨applyPolicies_valid hstored hplaces, ?_, applyPolicies_isOk,
    names_applyPolicies hnames, ?_, ?_⟩
  · rw [applyPolicies_policies]
    exact hcreated.mem_names
  · intro hok subject
    rw [hasAccess_applyPolicies hnames hok, haccess, hcreated.mem_subjects]
    constructor
    · intro h
      rcases h with ⟨entity, hentity, hresolve, hfresh⟩
      exact ⟨entity, hentity, hresolve, hfresh, fun _ h => absurd h List.not_mem_nil⟩
    · intro h
      rcases h with ⟨entity, hentity, hresolve, hfresh, _⟩
      exact ⟨entity, hentity, hresolve, hfresh⟩
  · intro hok name hne subject
    rw [hasAccess_applyPolicies_of_ne hnames hok hne]
    exact hasAccess_append hvalid resources created name subject

/-!
## The permissions of a call
-/

section Run

variable {realm : Realm} {existing : List String}

theorem createEach_append (store : Store) (before : List ResourcePermission)
    (permission : ResourcePermission) :
    createEach realm existing store (before ++ [permission]) =
      if (createEach realm existing store before).2 = .ok () then
        createPermission realm existing (createEach realm existing store before).1 permission
      else createEach realm existing store before := by
  induction before generalizing store with
  | nil =>
      show createEach realm existing store [permission] = createPermission _ _ store permission
      unfold createEach
      rcases createPermission realm existing store permission with ⟨after, result⟩
      cases result <;> rfl
  | cons first rest ih =>
      rw [List.cons_append]
      unfold createEach
      rcases createPermission realm existing store first with ⟨after, result⟩
      cases result with
      | error error => rfl
      | ok _ => exact ih after

/-- A new permission is named once. -/
def NamedOnce (store : Store) (permissions : List ResourcePermission) : Prop :=
  forall before permission after, permissions = before ++ permission :: after ->
    permissionName permission ∉ store.permissions.map Permission.name ->
    forall earlier, earlier ∈ before -> permissionName earlier ≠ permissionName permission

theorem namedOnce_concat {store : Store} {before : List ResourcePermission}
    {permission : ResourcePermission} :
    NamedOnce store (before ++ [permission]) <->
      NamedOnce store before ∧
        (permissionName permission ∉ store.permissions.map Permission.name ->
          forall earlier, earlier ∈ before ->
            permissionName earlier ≠ permissionName permission) :=
  Splits.forall_split_concat

/-- What the permissions of a call leave, where each is granted. -/
structure Granted (realm : Realm) (store : Store) (permissions : List ResourcePermission)
    (after : Store) : Prop where
  valid : after.Valid
  policyNames : forall name, name ∈ after.policies.map Policy.name <->
    name ∈ store.policies.map Policy.name ∨
      exists permission, permission ∈ permissions ∧ Names realm permission name
  names : forall name, name ∈ after.permissions.map Permission.name <->
    name ∈ store.permissions.map Permission.name ∨
      exists permission, permission ∈ permissions ∧ permissionName permission = name
  last : forall before permission rest, permissions = before ++ permission :: rest ->
    (forall later, later ∈ rest -> permissionName later ≠ permissionName permission) ->
    forall subject, after.HasAccess (permissionName permission) subject <->
      ListsFresh realm store before permission subject
  kept : forall name, (forall permission, permission ∈ permissions ->
      permissionName permission ≠ name) ->
    forall subject, after.HasAccess name subject <-> store.HasAccess name subject

def Resolved (realm : Realm) (permissions : List ResourcePermission) : Prop :=
  forall permission, permission ∈ permissions ->
    forall entity, entity ∈ permission.permissions ->
      exists subject, resolve realm entity = .ok subject

/-- One more permission. -/
theorem Granted.concat {store after : Store} {before : List ResourcePermission}
    {permission : ResourcePermission} {next : Store × Except (Nat × String) Unit}
    (h : Granted realm store before after) (hsteps : Steps realm existing after permission next)
    (hok : next.2 = .ok ()) : Granted realm store (before ++ [permission]) next.1 := by
  have hmem : forall {p : ResourcePermission -> Prop},
      (exists other, other ∈ before ++ [permission] ∧ p other) <->
        (exists other, other ∈ before ∧ p other) ∨ p permission := by
    intro p
    simp [or_and_right, exists_or]
  refine ⟨hsteps.valid, ?_, ?_, ?_, ?_⟩
  · intro name
    rw [hsteps.policyNames, h.policyNames, hmem, or_assoc]
  · intro name
    rw [hsteps.names hok, h.names, hmem, or_comm, or_assoc, eq_comm]
  · intro first other rest heq hlater subject
    rcases Splits.split_concat heq with ⟨rfl, rfl, _⟩ | ⟨rest', hrest, hsplit⟩
    · rw [hsteps.granted hok]
      unfold ListsFresh
      simp only [h.policyNames, not_or, not_exists, not_and, List.not_mem_nil, false_implies,
        implies_true, and_true]
    · have hne : permissionName other ≠ permissionName permission := by
        refine fun heq => hlater permission ?_ heq.symm
        rw [hrest]
        exact List.mem_concat_self
      rw [hsteps.kept hok _ hne]
      refine h.last first other rest' hsplit (fun later hmem => hlater later ?_) subject
      rw [hrest]
      exact List.mem_append_left _ hmem
  · intro name hnone subject
    have hne : name ≠ permissionName permission :=
      fun heq => hnone permission List.mem_concat_self heq.symm
    rw [hsteps.kept hok name hne]
    exact h.kept name (fun other hother => hnone other (List.mem_append_left _ hother)) subject

theorem granted_nil (realm : Realm) {store : Store} (h : store.Valid) :
    Granted realm store [] store := by
  refine ⟨h, ?_, ?_, ?_, ?_⟩
  · simp
  · simp
  · intro before permission rest heq
    cases before <;> cases heq
  · exact fun _ _ _ => Iff.rfl

/-- A call succeeds where new permissions are named once, and then grants each. -/
theorem createPermissions_granted {store : Store} (hvalid : store.Valid)
    {permissions : List ResourcePermission} (hresolved : Resolved realm permissions) :
    ((createPermissions realm store permissions).2 = .ok () <-> NamedOnce store permissions) ∧
      ((createPermissions realm store permissions).2 = .ok () ->
        Granted realm store permissions (createPermissions realm store permissions).1) := by
  unfold createPermissions
  induction permissions using List.reverseRecOn with
  | nil =>
      refine ⟨iff_of_true rfl ?_, fun _ => granted_nil realm hvalid⟩
      intro before permission rest heq
      cases before <;> cases heq
  | append_singleton before permission ih =>
      rcases ih fun other hother => hresolved other (List.mem_append_left _ hother) with
        ⟨hruns, hgranted⟩
      rw [createEach_append, namedOnce_concat]
      split
      · rename_i hok
        have hbefore := hgranted hok
        have hexisting : forall name, name ∈ store.permissions.map Permission.name ->
            name ∈ (createEach realm (store.permissions.map Permission.name) store
              before).1.permissions.map Permission.name :=
          fun name hname => (hbefore.names name).mpr (Or.inl hname)
        have hsteps := createPermission_steps hbefore.valid hexisting
          (hresolved permission List.mem_concat_self)
        refine ⟨?_, fun hlast => hbefore.concat hsteps hlast⟩
        rw [hsteps.isOk, hbefore.names, iff_true_intro (hruns.mp hok), true_and]
        simp only [not_or, not_exists, not_and]
        rcases Classical.em (permissionName permission ∈
          store.permissions.map Permission.name) with hold | hnew
        · exact iff_of_true (Or.inl hold) fun h => absurd hold h
        · exact ⟨fun h _ => (h.resolve_left hnew).2, fun h => Or.inr ⟨hnew, h hnew⟩⟩
      · rename_i hfails
        refine ⟨iff_of_false hfails fun h => hfails (hruns.mpr h.1), fun h => absurd h hfails⟩

/-- Whatever is resolved, policies are only added, and what is collected are places of policies. -/
theorem createPolicies_grows (permission : ResourcePermission)
    (entities : List PermissionEntity) (store : Store) :
    exists created, (createPolicies realm permission store entities).1 =
        { store with policies := store.policies ++ created } ∧
      forall policies, (createPolicies realm permission store entities).2 = .ok policies ->
        forall id, id ∈ policies -> id < (store.policies ++ created).length := by
  induction entities generalizing store with
  | nil =>
      refine ⟨[], ?_, ?_⟩
      · rw [List.append_nil]
        rfl
      · intro policies hok id hid
        cases hok
        cases hid
  | cons entity rest ih =>
      unfold createPolicies
      cases resolve realm entity with
      | error error =>
          refine ⟨[], ?_, ?_⟩
          · rw [List.append_nil]
          · intro policies hok
            cases hok
      | ok subject =>
          unfold Store.createPolicy
          dsimp only
          split
          · rcases ih store with ⟨created, hstore, hplaces⟩
            refine ⟨created, hstore, ?_⟩
            intro policies hok id hid
            rcases map_eq_ok.mp hok with ⟨others, hothers, heq⟩
            rw [← heq] at hid
            exact hplaces others hothers id hid
          · let policy : Policy := ⟨policyName permission entity subject, subject⟩
            rcases ih { store with policies := store.policies ++ [policy] } with
              ⟨created, hstore, hplaces⟩
            have hsplit : store.policies ++ policy :: created =
                store.policies ++ [policy] ++ created := List.append_cons _ _ _
            refine ⟨policy :: created, ?_, ?_⟩
            · rw [hsplit]
              exact hstore
            · rw [hsplit]
              intro policies hok id hid
              rcases map_eq_ok.mp hok with ⟨others, hothers, heq⟩
              rw [← heq] at hid
              rcases List.mem_cons.mp hid with hfirst | hrest
              · rw [hfirst]
                simp
              · exact hplaces others hothers id hrest

theorem createEach_valid (permissions : List ResourcePermission) {store : Store}
    (h : store.Valid) : (createEach realm existing store permissions).1.Valid := by
  induction permissions generalizing store with
  | nil => exact h
  | cons permission rest ih =>
      have hstep : (createPermission realm existing store permission).1.Valid := by
        rcases createResource_eq store permission with ⟨resources, hresource⟩
        rcases @createPolicies_grows realm permission permission.permissions
          { store with resources := resources } with ⟨created, hstore, hplaces⟩
        unfold createPermission
        rw [hresource]
        generalize createPolicies realm permission { store with resources := resources }
          permission.permissions = called at hstore hplaces ⊢
        rcases called with ⟨after, result⟩
        cases hstore
        cases result with
        | error error => exact h.append resources created
        | ok policies =>
            exact applyPolicies_valid (h.append resources created) (hplaces policies rfl)
      unfold createEach
      generalize createPermission realm existing store permission = called at hstep ⊢
      rcases called with ⟨after, result⟩
      cases result with
      | error error => exact hstep
      | ok _ => exact ih hstep

/-- Keycloak stays consistent, whether a call succeeds or fails. -/
theorem Reachable.valid {store : Store} (h : Reachable store) : store.Valid := by
  induction h with
  | empty => exact ⟨List.nodup_nil, fun _ h => absurd h List.not_mem_nil⟩
  | call realm permissions _ ih => exact createEach_valid permissions ih

/-- A call grants what is listed exactly where it is grantable. -/
theorem grantsListed_iff_grantable {store : Store} (hvalid : store.Valid)
    {permissions : List ResourcePermission} (hresolved : Resolved realm permissions) :
    GrantsListed realm store permissions <-> Grantable realm store permissions := by
  rcases createPermissions_granted hvalid hresolved with ⟨hruns, hgranted⟩
  constructor
  · intro h
    have hafter := hgranted h.succeeds
    refine ⟨hruns.mp h.succeeds, ?_⟩
    intro before permission rest heq hlater other hother hname subject
    rw [← (h.granted other hother).2, hname, hafter.last before permission rest heq hlater]
  · intro h
    have hok := hruns.mpr h.once
    have hafter := hgranted hok
    refine ⟨hok, ?_⟩
    intro permission hmem
    refine ⟨(hafter.names _).mpr (Or.inr ⟨permission, hmem, rfl⟩), ?_⟩
    intro subject
    have hnamed : exists other, other ∈ permissions ∧
        permissionName other = permissionName permission := ⟨permission, hmem, rfl⟩
    rcases Splits.exists_last hnamed with ⟨before, last, rest, heq, hname, hlater⟩
    rw [← hname] at hlater ⊢
    rw [hafter.last before last rest heq hlater]
    exact (h.fresh before last rest heq hlater permission hmem hname.symm subject).symm

/-- Where all policy names are stored, only nobody can be granted anything. -/
theorem grantable_of_stored {store : Store} {permissions : List ResourcePermission}
    (hresolved : Resolved realm permissions)
    (hnames : forall permission, permission ∈ permissions ->
      permissionName permission ∈ store.permissions.map Permission.name)
    (hpolicies : forall permission, permission ∈ permissions -> forall name,
      Names realm permission name -> name ∈ store.policies.map Policy.name) :
    Grantable realm store permissions <->
      forall permission, permission ∈ permissions -> permission.permissions = [] := by
  have hfresh : forall before permission, permission ∈ permissions -> forall subject,
      ¬ ListsFresh realm store before permission subject := by
    rintro before permission hmem subject ⟨entity, hentity, hresolve, hnew, _⟩
    exact hnew (hpolicies permission hmem _ ⟨entity, hentity, subject, hresolve, rfl⟩)
  constructor
  · intro h permission hmem
    have hnamed : exists other, other ∈ permissions ∧
        permissionName other = permissionName permission := ⟨permission, hmem, rfl⟩
    rcases Splits.exists_last hnamed with ⟨before, last, rest, heq, hname, hlater⟩
    rw [← hname] at hlater
    have hlast : last ∈ permissions := heq ▸ List.mem_append_right _ List.mem_cons_self
    refine List.eq_nil_iff_forall_not_mem.mpr fun entity hentity => ?_
    rcases hresolved permission hmem entity hentity with ⟨subject, hsubject⟩
    have hiff := h.fresh before last rest heq hlater permission hmem hname.symm subject
    exact hfresh before last hlast subject (hiff.mp ⟨entity, hentity, hsubject⟩)
  · intro h
    constructor
    · intro before permission rest heq hnew
      refine absurd (hnames permission ?_) hnew
      rw [heq]
      exact List.mem_append_right _ List.mem_cons_self
    · intro before permission rest heq _ other hother _ subject
      refine iff_of_false ?_ (hfresh before permission ?_ subject)
      · rintro ⟨entity, hentity, _⟩
        rw [h other hother] at hentity
        cases hentity
      · rw [heq]
        exact List.mem_append_right _ List.mem_cons_self

end Run

/-- A call grants what is listed exactly where it is listed under fresh policy names; and the same
call again changes nobody's access exactly where nobody is listed. -/
theorem createPermissions_grants_iff {realm : Realm} {store : Store} (hvalid : store.Valid)
    {permissions : List ResourcePermission} (hresolved : Resolved realm permissions) :
    (GrantsListed realm store permissions <-> Grantable realm store permissions) ∧
      ((GrantsListed realm store permissions ∧
          SameAccess (createPermissions realm store permissions).1
            (createPermissions realm (createPermissions realm store permissions).1
              permissions).1) <->
        Grantable realm store permissions ∧
          forall permission, permission ∈ permissions -> permission.permissions = []) := by
  have hiff := grantsListed_iff_grantable hvalid hresolved
  refine ⟨hiff, ?_⟩
  rw [hiff]
  refine and_congr_right fun hgrantable => ?_
  have hlisted := hiff.mpr hgrantable
  have hfirst := (createPermissions_granted hvalid hresolved).2 hlisted.succeeds
  have hnames : forall permission, permission ∈ permissions ->
      permissionName permission ∈
        (createPermissions realm store permissions).1.permissions.map Permission.name :=
    fun permission hmem => (hfirst.names _).mpr (Or.inr ⟨permission, hmem, rfl⟩)
  have hstored := grantable_of_stored hresolved hnames fun permission hmem name hname =>
    (hfirst.policyNames name).mpr (Or.inr ⟨permission, hmem, hname⟩)
  rw [← hstored, ← grantsListed_iff_grantable hfirst.valid hresolved]
  rcases createPermissions_granted hfirst.valid hresolved with ⟨hruns, hgranted⟩
  have hok := hruns.mpr fun before permission rest heq hnew =>
    absurd (hnames permission (heq ▸ List.mem_append_right _ List.mem_cons_self)) hnew
  have hsecond := hgranted hok
  constructor
  · intro hsame
    refine ⟨hok, fun permission hmem => ⟨?_, fun subject => ?_⟩⟩
    · exact (hsecond.names _).mpr (Or.inr ⟨permission, hmem, rfl⟩)
    · rw [← hsame, (hlisted.granted permission hmem).2]
  · intro hagain name subject
    rcases Classical.em (exists permission, permission ∈ permissions ∧
      permissionName permission = name) with ⟨permission, hmem, hname⟩ | hnone
    · rw [← hname, (hlisted.granted permission hmem).2, (hagain.granted permission hmem).2]
    · have hother : forall permission, permission ∈ permissions ->
          permissionName permission ≠ name := fun permission hmem hname =>
        hnone ⟨permission, hmem, hname⟩
      exact (hsecond.kept name hother subject).symm

/-!
## A permission for one user
-/

section Example

def oneUser : Realm where
  users := [⟨"u1", some "ada@keep"⟩]
  searchGroups := fun _ => []

def readPreset : ResourcePermission where
  resourceId := "p1"
  resourceName := "Errors"
  resourceType := "preset"
  permissions := [⟨"ada@keep", "user"⟩]

theorem oneUser_resolved : Resolved oneUser [readPreset] := by
  intro permission hmem entity hentity
  cases List.mem_singleton.mp hmem
  cases List.mem_singleton.mp hentity
  exact ⟨.user "u1", by decide⟩

/-- The first call lets the user in. -/
theorem firstGrant_grantsListed : GrantsListed oneUser ⟨[], [], []⟩ [readPreset] := by
  refine (createPermissions_grants_iff Reachable.empty.valid oneUser_resolved).1.mpr ?_
  have hsplit : forall before permission rest,
      [readPreset] = before ++ permission :: rest -> before = [] ∧ permission = readPreset := by
    intro before permission rest heq
    rcases List.append_eq_singleton_iff.mp heq.symm with ⟨hbefore, hrest⟩ | ⟨_, hrest⟩
    · exact ⟨hbefore, (List.cons.inj hrest).1⟩
    · cases hrest
  constructor
  · intro before permission rest heq _ earlier hmem
    rw [(hsplit before permission rest heq).1] at hmem
    cases hmem
  · intro before permission rest heq _ other hother _ subject
    rcases hsplit before permission rest heq with ⟨rfl, rfl⟩
    rw [List.mem_singleton.mp hother]
    constructor
    · rintro ⟨entity, hentity, hresolve⟩
      exact ⟨entity, hentity, hresolve, List.not_mem_nil, fun _ h => absurd h List.not_mem_nil⟩
    · rintro ⟨entity, hentity, hresolve, _⟩
      exact ⟨entity, hentity, hresolve⟩

/-- The second one finds the policy taken and leaves the permission without policies. -/
theorem secondGrant_not_grantsListed :
    ¬ GrantsListed oneUser (createPermissions oneUser ⟨[], [], []⟩ [readPreset]).1
      [readPreset] := by
  intro h
  have haccess := ((h.granted readPreset List.mem_cons_self).2 (.user "u1")).mpr
    ⟨⟨"ada@keep", "user"⟩, List.mem_cons_self, by decide⟩
  have hstored : (createPermissions oneUser (createPermissions oneUser ⟨[], [], []⟩
      [readPreset]).1 [readPreset]).1.permissions =
        [⟨"Permission for resource Errors (p1)", ["p1"], []⟩] := by decide
  rcases haccess with ⟨permission, hmem, hname, hsubject⟩
  rw [hstored] at hmem
  rw [List.mem_singleton.mp hmem] at hsubject
  cases hsubject

end Example

end Permissions
end Identity
end KeepGateway
