import KeepGateway.Tenants.RoleGrants
import Mathlib.Data.List.Induction

/-!
# The last administrator

A caller is an administrator through a grant that the call cannot touch.  So every call
that writes leaves that grant, and leaves the caller's own role.
-/

namespace KeepGateway
namespace Tenants

/-- The tenant has an admin grant. -/
def HasAdmin (tenantId : String) (db : Database) : Prop :=
  exists g, g ∈ db.grants ∧ g.tenantId = tenantId ∧ g.role = "admin"

/-- Outside the grant of one subject nothing differs. -/
structure SameElsewhere (tenantId subject : String) (db db' : Database) : Prop where
  keeps : forall g, g ∈ db.grants -> isGrantOf tenantId subject g = false -> g ∈ db'.grants
  roles : forall tenant subjects, (tenant = tenantId -> subject ∉ subjects) ->
    db'.rolesOf tenant subjects = db.rolesOf tenant subjects

theorem isGrantOf_iff {tenantId subject : String} {g : TenantRoleGrant} :
    isGrantOf tenantId subject g = true <-> g.tenantId = tenantId ∧ g.subject = subject := by
  unfold isGrantOf
  rw [Bool.and_eq_true, beq_iff_eq, beq_iff_eq]

/-- A grant of the written subject is not among the subjects that are read. -/
theorem not_read {tenantId subject tenant : String} {subjects : List String} {g : TenantRoleGrant}
    (hg : isGrantOf tenantId subject g = true) (h : tenant = tenantId -> subject ∉ subjects) :
    ¬ (g.tenantId = tenant ∧ g.subject ∈ subjects) := by
  rcases isGrantOf_iff.mp hg with ⟨htenant, hsubject⟩
  rintro ⟨heq, hmem⟩
  rw [hsubject] at hmem
  exact h (heq.symm.trans htenant) hmem

theorem sameElsewhere_addGrant (db : Database) (tenantId : String) (m : RoleAssignment) :
    SameElsewhere tenantId m.subject db (db.addGrant tenantId m) := by
  unfold Database.addGrant
  split
  · refine ⟨fun g hg _ => List.mem_append_left _ hg, ?_⟩
    intro tenant subjects h
    have hown : isGrantOf tenantId m.subject (m.grant tenantId) = true :=
      isGrantOf_iff.mpr ⟨rfl, rfl⟩
    unfold Database.rolesOf
    rw [List.filter_append, List.filter_cons_of_neg (by simpa using not_read hown h)]
    simp
  · constructor
    · intro g hg hother
      exact List.mem_map.mpr ⟨g, hg, by rw [hother]; rfl⟩
    · intro tenant subjects h
      unfold Database.rolesOf
      simp only
      rw [List.filter_map, List.map_map]
      have hfilter : db.grants.filter ((fun g : TenantRoleGrant =>
            decide (g.tenantId = tenant ∧ g.subject ∈ subjects)) ∘ fun g =>
              if isGrantOf tenantId m.subject g then
                { g with subjectType := m.subjectType, role := m.role }
              else g) =
          db.grants.filter fun g => g.tenantId = tenant ∧ g.subject ∈ subjects := by
        apply List.filter_congr
        intro g _
        rw [Function.comp_apply]
        split <;> rfl
      rw [hfilter]
      apply List.map_congr_left
      intro g hg
      have hread := of_decide_eq_true (List.mem_filter.mp hg).2
      rw [Function.comp_apply, if_neg fun hown => not_read hown h hread]

theorem sameElsewhere_removeGrant {db db' : Database} {tenantId subject : String}
    (h : db.removeGrant tenantId subject = some db') :
    SameElsewhere tenantId subject db db' := by
  unfold Database.removeGrant at h
  split at h
  · cases h
  · cases h
    refine ⟨fun g hg hother => List.mem_filter.mpr ⟨hg, by rw [hother]; rfl⟩, ?_⟩
    intro tenant subjects hread
    unfold Database.rolesOf
    simp only
    rw [List.filter_filter]
    congr 1
    apply List.filter_congr
    intro g _
    cases hown : isGrantOf tenantId subject g with
    | false => simp
    | true => simp [not_read hown hread]

/-!
## What a call does
-/

/-- The subject that a call writes. -/
def RoleCall.subject (call : RoleCall) : String :=
  match call.request with
  | .addRole body => body.subject
  | .removeRole subject => subject

theorem guard_ok {entity : AuthenticatedEntity} {subject : String}
    (h : guardSelfModification entity subject = .ok ()) (hentity : isSuperadmin entity = false) :
    subject ∉ getSubjects entity := by
  intro hmem
  unfold guardSelfModification at h
  rw [hentity, List.contains_iff_mem.mpr hmem] at h
  cases h

/-- A call that succeeds comes from an administrator, writes none of the caller's
subjects, and leaves the other grants. -/
theorem RoleCall.run_ok {call : RoleCall} {db db' : Database} (h : call.run db = .ok db')
    (hentity : isSuperadmin call.entity = false) :
    (exists role, assertTenantRole db call.entity call.tenantId "admin" = .ok role) ∧
      call.subject ∉ getSubjects call.entity ∧
      SameElsewhere call.tenantId call.subject db db' := by
  rcases call with ⟨entity, tenantId, request⟩
  cases request with
  | addRole body =>
      rcases bind_eq_ok.mp h with ⟨role, hrole, h⟩
      rcases bind_eq_ok.mp h with ⟨_, _, h⟩
      rcases bind_eq_ok.mp h with ⟨_, hguard, h⟩
      cases h
      exact ⟨⟨role, hrole⟩, guard_ok hguard hentity, sameElsewhere_addGrant db tenantId body⟩
  | removeRole subject =>
      rcases bind_eq_ok.mp h with ⟨role, hrole, h⟩
      rcases bind_eq_ok.mp h with ⟨_, hguard, h⟩
      refine ⟨⟨role, hrole⟩, guard_ok hguard hentity, ?_⟩
      cases hremoved : db.removeGrant tenantId subject with
      | none =>
          simp only [hremoved] at h
          cases h
      | some removed =>
          simp only [hremoved] at h
          cases h
          exact sameElsewhere_removeGrant hremoved

theorem foldl_mem {f : String -> String -> String} (hf : forall a b, f a b = a ∨ f a b = b)
    (role : String) (rest : List String) :
    rest.foldl f role = role ∨ rest.foldl f role ∈ rest := by
  induction rest generalizing role with
  | nil => exact .inl rfl
  | cons next rest ih =>
      rw [List.foldl_cons]
      rcases ih (f role next) with heq | hmem
      · rw [heq]
        rcases hf role next with h | h
        · exact .inl h
        · rw [h]
          exact .inr List.mem_cons_self
      · exact .inr (List.mem_cons_of_mem _ hmem)

/-- The strongest role is one of the roles. -/
theorem strongest_mem {roles : List String} {role : String} (h : strongest roles = some role) :
    role ∈ roles := by
  cases roles with
  | nil => cases h
  | cons first rest =>
      cases h
      have hmem := foldl_mem (f := fun best next =>
        if (roleStrength best).getD 0 < (roleStrength next).getD 0 then next else best) (by
          intro a b
          split
          · exact .inr rfl
          · exact .inl rfl) first rest
      rcases hmem with heq | hmem
      · rw [heq]
        exact List.mem_cons_self
      · exact List.mem_cons_of_mem _ hmem

theorem eq_admin_of_strength {role : String} {strength : Nat}
    (h : strengthOf role = .ok strength) (hle : 3 <= strength) : role = "admin" := by
  unfold strengthOf roleStrength at h
  split at h
  · rename_i heq
    split at heq
    · rfl
    · cases heq
      cases h
      omega
    · cases heq
      cases h
      omega
    · cases heq
  · cases h

/-- An administrator is one through a grant of one of the subjects. -/
theorem grant_of_admin {db : Database} {entity : AuthenticatedEntity} {tenantId role : String}
    (hentity : isSuperadmin entity = false)
    (h : assertTenantRole db entity tenantId "admin" = .ok role) :
    exists g, g ∈ db.grants ∧ g.tenantId = tenantId ∧ g.subject ∈ getSubjects entity ∧
      g.role = "admin" := by
  unfold assertTenantRole at h
  simp only at h
  split at h
  · cases h
  · rename_i found hfound
    rcases bind_eq_ok.mp h with ⟨strength, hstrength, h⟩
    rcases bind_eq_ok.mp h with ⟨needed, hneeded, h⟩
    have hthree : needed = 3 := by
      cases hneeded
      rfl
    have hle : 3 <= strength := by
      rw [← hthree]
      split at h
      · cases h
      · rename_i hlt
        exact Nat.le_of_not_lt hlt
    have hadmin : found = "admin" := eq_admin_of_strength hstrength hle
    unfold resolveTenantRole at hfound
    rw [hentity] at hfound
    unfold Database.getTenantRoleForSubjects at hfound
    simp only [Bool.false_eq_true, if_false] at hfound
    split at hfound
    · cases hfound
    · rcases List.mem_map.mp (strongest_mem hfound) with ⟨g, hg, hrole⟩
      rcases List.mem_filter.mp hg with ⟨hmem, hread⟩
      rcases of_decide_eq_true hread with ⟨htenant, hsubject⟩
      exact ⟨g, hmem, htenant, hsubject, hrole.trans hadmin⟩

/-- A call keeps the administrators that a tenant has. -/
theorem RoleCall.hasAdmin {call : RoleCall} {db : Database} {tenantId : String}
    (hentity : isSuperadmin call.entity = false) (h : HasAdmin tenantId db) :
    HasAdmin tenantId (call.apply db) := by
  unfold RoleCall.apply
  cases hrun : call.run db with
  | error e => exact h
  | ok db' =>
      rcases call.run_ok hrun hentity with ⟨⟨role, hrole⟩, hsubject, hsame⟩
      rcases Classical.em (tenantId = call.tenantId) with heq | hne
      · -- The grant that makes the caller an administrator is not the one written.
        rcases grant_of_admin hentity hrole with ⟨g, hg, htenant, hmem, hadmin⟩
        refine ⟨g, hsame.keeps g hg ?_, htenant.trans heq.symm, hadmin⟩
        apply Bool.eq_false_iff.mpr
        intro hown
        rw [(isGrantOf_iff.mp hown).2] at hmem
        exact hsubject hmem
      · rcases h with ⟨g, hg, htenant, hadmin⟩
        refine ⟨g, hsame.keeps g hg ?_, htenant, hadmin⟩
        apply Bool.eq_false_iff.mpr
        intro hown
        exact hne (htenant.symm.trans (isGrantOf_iff.mp hown).1)

/-- A call leaves the role of its caller, on every tenant. -/
theorem RoleCall.ownRole {call : RoleCall} (hentity : isSuperadmin call.entity = false)
    (db : Database) (tenantId : String) :
    resolveTenantRole (call.apply db) call.entity tenantId =
      resolveTenantRole db call.entity tenantId := by
  unfold RoleCall.apply
  cases hrun : call.run db with
  | error e => rfl
  | ok db' =>
      rcases call.run_ok hrun hentity with ⟨_, hsubject, hsame⟩
      unfold resolveTenantRole Database.getTenantRoleForSubjects
      rw [hentity, hsame.roles tenantId (getSubjects call.entity) fun _ => hsubject]

theorem hasAdmin_created {strip : String -> String} {newId : String} {entity : AuthenticatedEntity}
    {body : CreateTenantRequest} {db db' : Database}
    (h : createTenantEndpoint strip newId entity body db = .ok db') : HasAdmin newId db' := by
  unfold createTenantEndpoint at h
  split at h
  · cases h
  · split at h
    · cases h
    · rcases bind_eq_ok.mp h with ⟨_, _, h⟩
      split at h
      · rename_i hadmin
        split at h
        · cases h
        · rename_i created hcreated
          cases h
          rcases List.any_eq_true.mp hadmin with ⟨m, hm, hrole⟩
          unfold Database.createTenantAtomic at hcreated
          split at hcreated
          · cases hcreated
          · split at hcreated
            · cases hcreated
            · cases hcreated
              exact ⟨m.grant newId, List.mem_append_right _ (List.mem_map_of_mem hm), rfl,
                beq_iff_eq.mp hrole⟩
      · cases h

/-- For a tenant that was created through the endpoint and any sequence of calls by callers
who are not superadmins, on this tenant and others: after each call the tenant has an admin
grant, and the call has left the role of its own caller. -/
theorem lastAdmin_kept (strip : String -> String) (newId : String)
    (superadmin : AuthenticatedEntity) (body : CreateTenantRequest) (before db : Database)
    (hcreated : createTenantEndpoint strip newId superadmin body before = .ok db)
    (calls : List RoleCall)
    (hcallers : forall call, call ∈ calls -> isSuperadmin call.entity = false) :
    HasAdmin newId (calls.foldl (fun db call => call.apply db) db) ∧
      forall earlier call later, calls = earlier ++ call :: later ->
        HasAdmin newId ((earlier ++ [call]).foldl (fun db call => call.apply db) db) ∧
        forall tenantId,
          resolveTenantRole ((earlier ++ [call]).foldl (fun db call => call.apply db) db)
              call.entity tenantId =
            resolveTenantRole (earlier.foldl (fun db call => call.apply db) db)
              call.entity tenantId := by
  have hrun : forall calls : List RoleCall,
      (forall call, call ∈ calls -> isSuperadmin call.entity = false) ->
      HasAdmin newId (calls.foldl (fun db call => call.apply db) db) := by
    intro calls hcallers
    induction calls using List.reverseRecOn with
    | nil => exact hasAdmin_created hcreated
    | append_singleton calls call ih =>
        rw [List.foldl_append]
        exact RoleCall.hasAdmin (hcallers call (by simp))
          (ih fun other hother => hcallers other (List.mem_append_left _ hother))
  refine ⟨hrun calls hcallers, ?_⟩
  intro earlier call later heq
  have hcaller : isSuperadmin call.entity = false := hcallers call (by rw [heq]; simp)
  constructor
  · apply hrun
    intro other hother
    apply hcallers
    rw [heq]
    rcases List.mem_append.mp hother with hmem | hmem
    · exact List.mem_append_left _ hmem
    · rw [List.mem_singleton.mp hmem]
      simp
  · intro tenantId
    rw [List.foldl_append]
    exact RoleCall.ownRole hcaller _ tenantId

def root : AuthenticatedEntity := ⟨some "root", none, none, some "superadmin"⟩

def ann : AuthenticatedEntity := ⟨some "ann", some "ann@acme", some ["/acme-admin"], some "admin"⟩

def bob : AuthenticatedEntity := ⟨some "bob", none, some ["/acme-admin"], some "admin"⟩

/-- A tenant with an administrator of its own and one group of them. -/
def acme : CreateTenantRequest where
  name := "acme"
  roleMappings := [⟨"ann", "user", "admin"⟩, ⟨"/acme-admin", "group", "admin"⟩]

def acmeCreated : Database where
  tenants := [⟨"t1", "acme"⟩]
  grants := [⟨"t1", "ann", "user", "admin"⟩, ⟨"t1", "/acme-admin", "group", "admin"⟩]

def demotions : List RoleCall :=
  [⟨bob, "t1", .removeRole "ann"⟩, ⟨ann, "t1", .addRole ⟨"/acme-admin", "group", "viewer"⟩⟩]

theorem acme_lastAdmin_kept :
    HasAdmin "t1" (demotions.foldl (fun db call => call.apply db) acmeCreated) ∧
      forall earlier call later, demotions = earlier ++ call :: later ->
        HasAdmin "t1" ((earlier ++ [call]).foldl (fun db call => call.apply db) acmeCreated) ∧
        forall tenantId,
          resolveTenantRole ((earlier ++ [call]).foldl (fun db call => call.apply db) acmeCreated)
              call.entity tenantId =
            resolveTenantRole (earlier.foldl (fun db call => call.apply db) acmeCreated)
              call.entity tenantId :=
  lastAdmin_kept (fun name => name) "t1" root acme ⟨[], []⟩ acmeCreated (by decide) demotions
    (by
      intro call hcall
      rcases List.mem_cons.mp hcall with rfl | h
      · decide
      · cases List.mem_singleton.mp h
        decide)

end Tenants
end KeepGateway
