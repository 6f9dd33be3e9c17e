import KeepGateway.Lib.FirstMatch
import KeepGateway.Operators.Credentials
import KeepGateway.Operators.Rollback
import KeepGateway.Tenants.LastAdministrator

/-!
# Access to tenants

The endpoints of tenants and of operators over one directory: what callers can do to a tenant
that they do not administer, and what they are told of it.
-/

namespace KeepGateway
namespace Tenants

open FirstMatch
open Operators (Operator World KongBuild GrafanaConfig RequestSite ProvisionError)

/-- The tables of tenants and grants, and what the operators have. -/
structure Directory where
  db : Database
  world : World
  deriving DecidableEq, Repr

/-- What the endpoints use of the process: `str.strip`, the text of an exception, and the two
services that operators are provisioned in. -/
structure Deployment where
  strip : String -> String
  str : ProvisionError -> String
  build : KongBuild
  config : GrafanaConfig

/-!
## Tenants
-/

def Database.getTenant (db : Database) (tenantId : String) : Option Tenant :=
  db.tenants.find? fun t => t.id == tenantId

def Database.getTenantsForSubjects (db : Database) (subjects : List String) : List Tenant :=
  if subjects = [] then []
  else
    let tenantIds := (db.grants.filter fun g => g.subject ∈ subjects).map TenantRoleGrant.tenantId
    if tenantIds = [] then [] else db.tenants.filter fun t => t.id ∈ tenantIds

def Database.listGrants (db : Database) (tenantId : String) : List TenantRoleGrant :=
  db.grants.filter fun g => g.tenantId = tenantId

/-- `update_tenant`: `none` where the name is that of another tenant. -/
def Database.updateTenant (db : Database) (tenantId name : String) : Option Database :=
  if db.tenants.any fun t => t.id ≠ tenantId ∧ t.name = name then none
  else
    some
      { db with
        tenants := db.tenants.map fun t => if t.id = tenantId then { t with name := name } else t }

def updateTenantEndpoint (strip : String -> String) (entity : AuthenticatedEntity)
    (tenantId name : String) (db : Database) : Except PyException Database := do
  let _ <- assertTenantRole db entity tenantId "admin"
  if strip name = "" then .error (.http ⟨400, "Tenant name cannot be empty"⟩)
  else
    match db.getTenant tenantId with
    | none => .error (.http ⟨404, "Tenant not found"⟩)
    | some _ =>
        match db.updateTenant tenantId (strip name) with
        | none => .error (.http ⟨409, "Tenant name already exists"⟩)
        | some db' => .ok db'

def listTenantsEndpoint (entity : AuthenticatedEntity) (d : Directory) : List Tenant :=
  if isSuperadmin entity then d.db.tenants
  else d.db.getTenantsForSubjects (getSubjects entity)

structure OperatorSummary where
  id : Nat
  name : String
  group : String
  deriving DecidableEq, Repr

structure TenantDetails where
  id : String
  name : String
  roles : List RoleAssignment
  operators : List OperatorSummary
  deriving DecidableEq, Repr

def getOperators (tenantId : Option String) (w : World) : List Operator :=
  match tenantId with
  | none => w.operators
  | some tenantId => w.operators.filter fun o => o.tenantId = tenantId

/-- `get_tenant_endpoint`, behind `require_tenant_member`. -/
def getTenantEndpoint (entity : AuthenticatedEntity) (tenantId : String) (d : Directory) :
    Except PyException TenantDetails := do
  let _ <- assertTenantRole d.db entity tenantId "viewer"
  match d.db.getTenant tenantId with
  | none => .error (.http ⟨404, "Tenant not found"⟩)
  | some tenant =>
      .ok
        { id := tenant.id
          name := tenant.name
          roles := (d.db.listGrants tenantId).map fun g => ⟨g.subject, g.subjectType, g.role⟩
          operators := (getOperators (some tenantId) d.world).map fun o => ⟨o.id, o.name, o.group⟩ }

/-!
## Operators
-/

def getGroups (entity : AuthenticatedEntity) : List String := entity.groups.getD []

structure CreateOperatorRequest where
  group : String
  tenantId : String
  name : Option String
  deriving DecidableEq, Repr

/-- What a failed provisioning is answered with. -/
def provisioningFailure (str : ProvisionError -> String) : ProvisionError -> HttpException
  | .operatorNameTaken _ => ⟨409, "operator name already exists"⟩
  | .operatorGroupTaken _ => ⟨409, "group already has an operator"⟩
  | e => ⟨503, "operator provisioning failed: " ++ str e⟩

def createOperatorEndpoint (dep : Deployment) (failing : Option RequestSite)
    (entity : AuthenticatedEntity) (body : CreateOperatorRequest) (d : Directory) :
    Except PyException Operator × Directory :=
  match assertTenantRole d.db entity body.tenantId "editor" with
  | .error e => (.error e, d)
  | .ok _ =>
      if !isSuperadmin entity && !(getGroups entity).contains body.group then
        (.error (.http ⟨400, "group must be one of your groups"⟩), d)
      else
        match Operators.provisionOperator dep.build dep.config failing
          (Operators.operatorName body.group body.name) body.group body.tenantId d.world with
        | (.ok operator, w) => (.ok operator, { d with world := w })
        | (.error e, w) =>
            (.error (.http (provisioningFailure dep.str e)), { d with world := w })

def getOperator (operatorId : Nat) (w : World) : Option Operator :=
  w.operators.find? fun o => o.id == operatorId

def operatorNotFound : PyException := .http ⟨404, "Operator not found"⟩

def listOperatorsEndpoint (entity : AuthenticatedEntity) (tenantId : Option String)
    (d : Directory) : Except PyException (List Operator) :=
  match tenantId with
  | some tenantId => do
      let _ <- assertTenantRole d.db entity tenantId "viewer"
      .ok (getOperators (some tenantId) d.world)
  | none =>
      if isSuperadmin entity then .ok (getOperators none d.world)
      else .error (.http ⟨400, "tenant_id is required"⟩)

def getOperatorEndpoint (entity : AuthenticatedEntity) (operatorId : Nat) (d : Directory) :
    Except PyException Operator :=
  match getOperator operatorId d.world with
  | none => .error operatorNotFound
  | some operator => do
      let _ <- assertTenantRole d.db entity operator.tenantId "viewer"
      .ok operator

def deleteOperatorEndpoint (entity : AuthenticatedEntity) (operatorId : Nat) (d : Directory) :
    Except PyException Directory :=
  match getOperator operatorId d.world with
  | none => .error operatorNotFound
  | some operator => do
      let _ <- assertTenantRole d.db entity operator.tenantId "admin"
      .ok { d with world := Operators.deleteOperator operatorId d.world }

/-!
## Requests
-/

/-- The requests that write. -/
inductive DirectoryRequest where
  | createTenant (newId : String) (body : CreateTenantRequest)
  | updateTenant (tenantId name : String)
  | role (tenantId : String) (request : RoleRequest)
  | createOperator (failing : Option RequestSite) (body : CreateOperatorRequest)
  | deleteOperator (operatorId : Nat)
  deriving DecidableEq, Repr

structure DirectoryCall where
  entity : AuthenticatedEntity
  request : DirectoryRequest
  deriving DecidableEq, Repr

/-- What a request that writes to the tables alone leaves; one that is refused leaves them. -/
def Directory.written (d : Directory) : Except PyException Database -> Directory
  | .ok db => { d with db := db }
  | .error _ => d

/-- The directory after a call. -/
def DirectoryCall.apply (dep : Deployment) (d : Directory) (call : DirectoryCall) : Directory :=
  match call.request with
  | .createTenant newId body =>
      d.written (createTenantEndpoint dep.strip newId call.entity body d.db)
  | .updateTenant tenantId name =>
      d.written (updateTenantEndpoint dep.strip call.entity tenantId name d.db)
  | .role tenantId request => d.written (RoleCall.run ⟨call.entity, tenantId, request⟩ d.db)
  | .createOperator failing body =>
      (createOperatorEndpoint dep failing call.entity body d).2
  | .deleteOperator operatorId =>
      match deleteOperatorEndpoint call.entity operatorId d with
      | .ok d' => d'
      | .error _ => d

/-- The directory after calls in a row. -/
def afterCalls (dep : Deployment) (d : Directory) (calls : List DirectoryCall) : Directory :=
  calls.foldl (DirectoryCall.apply dep) d

/-!
## The rows of a provisioning
-/

/-- Whether it fails or not, a provisioning adds one row at most, and touches no other. -/
inductive RowsAfter (body : CreateOperatorRequest) (w w' : World) : Prop where
  | same (hrows : w'.operators = w.operators) (hnext : w.nextOperator <= w'.nextOperator)
  | added (row : Operator) (hid : row.id = w.nextOperator) (htenant : row.tenantId = body.tenantId)
      (hfree : Operators.conflicts row w.operators = false)
      (hrows : w'.operators = w.operators ++ [row]) (hnext : w'.nextOperator = w.nextOperator + 1)

theorem rowsAfter_afterKey (build : KongBuild) (config : GrafanaConfig)
    (failing : Option RequestSite) (operatorName : String) (body : CreateOperatorRequest)
    (provisionedKey : Nat) (w : World) :
    RowsAfter body w (Operators.afterKey build config failing operatorName body.group
      body.tenantId provisionedKey w).2 := by
  unfold Operators.afterKey
  rcases Operators.createRow_cases failing operatorName body.group body.tenantId provisionedKey w
    with ⟨e, hrow, _⟩ | ⟨_, hfree, hrow⟩ | ⟨_, hfree, hrow⟩
  · rw [hrow]
    exact .same rfl (Nat.le_refl _)
  · rw [hrow]
    exact .added _ rfl rfl hfree rfl rfl
  · rw [hrow]
    dsimp only
    split
    · -- The row is the one of the name that the rollback finds.
      exact .same (Operators.eraseP_newRow hfree) (Nat.le_succ _)
    · exact .added _ rfl rfl hfree rfl rfl

theorem rowsAfter_provisionOperator (build : KongBuild) (config : GrafanaConfig)
    (failing : Option RequestSite) (operatorName : String) (body : CreateOperatorRequest)
    (w : World) :
    RowsAfter body w (Operators.provisionOperator build config failing operatorName body.group
      body.tenantId w).2 := by
  have hsame : forall kong, RowsAfter body w { w with kong := kong } :=
    fun kong => .same rfl (Nat.le_refl _)
  rw [Operators.provisionOperator_eq]
  split
  · exact hsame _
  · rename_i consumerId kong _
    unfold Operators.afterConsumer
    split
    · exact .same rfl (Nat.le_refl _)
    · rename_i provisionedKey kong' _
      have hrows := rowsAfter_afterKey build config failing operatorName body provisionedKey
        { w with kong := kong' }
      cases hrows with
      | same hrows hnext => exact .same hrows hnext
      | added row hid htenant hfree hrows hnext => exact .added row hid htenant hfree hrows hnext

/-!
## Bystanders

The callers that do not administer a tenant.
-/

/-- The caller passes the check for the role. -/
def Holds (db : Database) (entity : AuthenticatedEntity) (tenantId minimum : String) : Prop :=
  exists role, assertTenantRole db entity tenantId minimum = .ok role

instance (db : Database) (entity : AuthenticatedEntity) (tenantId minimum : String) :
    Decidable (Holds db entity tenantId minimum) :=
  match h : assertTenantRole db entity tenantId minimum with
  | .ok role => isTrue ⟨role, h⟩
  | .error e => isFalse fun ⟨role, hrole⟩ => by rw [h] at hrole; cases hrole

theorem rolesOf_eq (db : Database) (tenantId : String) (subjects : List String) :
    db.rolesOf tenantId subjects =
      ((db.listGrants tenantId).filter fun g => g.subject ∈ subjects).map
        TenantRoleGrant.role := by
  unfold Database.rolesOf Database.listGrants
  rw [List.filter_filter]
  congr 1
  apply List.filter_congr
  intro g _
  rw [Bool.and_comm, Bool.decide_and]

/-- The check reads the grants of the tenant. -/
theorem assertTenantRole_of_grants {db db' : Database} {tenantId : String}
    (h : db'.listGrants tenantId = db.listGrants tenantId) (entity : AuthenticatedEntity)
    (minimum : String) :
    assertTenantRole db' entity tenantId minimum = assertTenantRole db entity tenantId minimum := by
  unfold assertTenantRole resolveTenantRole Database.getTenantRoleForSubjects
  rw [rolesOf_eq, rolesOf_eq, h]

theorem holds_of_grants {db db' : Database} {tenantId : String}
    (h : db'.listGrants tenantId = db.listGrants tenantId) (entity : AuthenticatedEntity)
    (minimum : String) :
    Holds db' entity tenantId minimum <-> Holds db entity tenantId minimum := by
  unfold Holds
  rw [assertTenantRole_of_grants h]

theorem not_isGrantOf {tenantId subject tenant : String} {g : TenantRoleGrant}
    (hg : g.tenantId = tenant) (hne : tenant ≠ tenantId) :
    isGrantOf tenantId subject g = false := by
  apply Bool.eq_false_iff.mpr
  intro hown
  exact hne (hg.symm.trans (isGrantOf_iff.mp hown).1)

theorem listGrants_addGrant {tenant tenantId : String} (hne : tenant ≠ tenantId) (db : Database)
    (m : RoleAssignment) : (db.addGrant tenantId m).listGrants tenant = db.listGrants tenant := by
  unfold Database.addGrant Database.listGrants
  split
  · rw [List.filter_append, List.filter_cons_of_neg, List.filter_nil, List.append_nil]
    intro heq
    exact hne (of_decide_eq_true heq).symm
  · dsimp only
    rw [List.filter_map]
    have hfilter : db.grants.filter ((fun g : TenantRoleGrant => decide (g.tenantId = tenant)) ∘
          fun g => if isGrantOf tenantId m.subject g then
            { g with subjectType := m.subjectType, role := m.role } else g) =
        db.grants.filter fun g => g.tenantId = tenant := by
      apply List.filter_congr
      intro g _
      rw [Function.comp_apply]
      split <;> rfl
    rw [hfilter]
    apply (List.map_congr_left _).trans (List.map_id _)
    intro g hg
    rw [not_isGrantOf (of_decide_eq_true (List.mem_filter.mp hg).2) hne]
    rfl

theorem listGrants_removeGrant {tenant tenantId subject : String} (hne : tenant ≠ tenantId)
    {db db' : Database} (h : db.removeGrant tenantId subject = some db') :
    db'.listGrants tenant = db.listGrants tenant := by
  unfold Database.removeGrant at h
  split at h
  · cases h
  · cases h
    unfold Database.listGrants
    rw [List.filter_filter]
    apply List.filter_congr
    intro g _
    cases htenant : decide (g.tenantId = tenant) with
    | false => rfl
    | true => rw [not_isGrantOf (of_decide_eq_true htenant) hne, Bool.true_and, Bool.not_false]

/-- A call writes the grants of its own tenant alone. -/
theorem RoleCall.others {call : RoleCall} {db db' : Database} (h : call.run db = .ok db') :
    db'.tenants = db.tenants ∧
      (exists role, assertTenantRole db call.entity call.tenantId "admin" = .ok role) ∧
      forall tenant, tenant ≠ call.tenantId -> db'.listGrants tenant = db.listGrants tenant := by
  rcases call with ⟨entity, tenantId, request⟩
  cases request with
  | addRole body =>
      rcases bind_eq_ok.mp h with ⟨role, hrole, h⟩
      rcases bind_eq_ok.mp h with ⟨_, _, h⟩
      rcases bind_eq_ok.mp h with ⟨_, _, h⟩
      cases h
      refine ⟨?_, ⟨role, hrole⟩, fun tenant hne => listGrants_addGrant hne db body⟩
      unfold Database.addGrant
      split <;> rfl
  | removeRole subject =>
      rcases bind_eq_ok.mp h with ⟨role, hrole, h⟩
      rcases bind_eq_ok.mp h with ⟨_, _, h⟩
      dsimp only at h
      split at h
      · cases h
      · rename_i removed hremoved
        cases h
        refine ⟨?_, ⟨role, hrole⟩, fun tenant hne => listGrants_removeGrant hne hremoved⟩
        unfold Database.removeGrant at hremoved
        split at hremoved
        · cases hremoved
        · cases hremoved
          rfl

theorem updateTenantEndpoint_ok {strip : String -> String} {entity : AuthenticatedEntity}
    {tenantId name : String} {db db' : Database}
    (h : updateTenantEndpoint strip entity tenantId name db = .ok db') :
    (exists role, assertTenantRole db entity tenantId "admin" = .ok role) ∧
      strip name ≠ "" ∧ db.updateTenant tenantId (strip name) = some db' := by
  rcases bind_eq_ok.mp h with ⟨role, hrole, h⟩
  split at h
  · cases h
  · rename_i hname
    split at h
    · cases h
    · split at h
      · cases h
      · rename_i updated hupdated
        cases h
        exact ⟨⟨role, hrole⟩, hname, hupdated⟩

theorem updateTenant_some {db db' : Database} {tenantId name : String}
    (h : db.updateTenant tenantId name = some db') :
    (forall t, t ∈ db.tenants -> t.id ≠ tenantId -> t.name ≠ name) ∧ db' = { db with
      tenants := db.tenants.map fun t => if t.id = tenantId then { t with name := name } else t } := by
  unfold Database.updateTenant at h
  split at h
  · cases h
  · rename_i hfree
    cases h
    refine ⟨?_, rfl⟩
    intro t ht hid hname
    exact hfree (List.any_eq_true.mpr ⟨t, ht, decide_eq_true ⟨hid, hname⟩⟩)

/-- The ids of the operators are those that were handed out, each one once. -/
structure OperatorIds (w : World) : Prop where
  nodup : (w.operators.map Operator.id).Nodup
  next : forall o, o ∈ w.operators -> o.id < w.nextOperator

theorem RowsAfter.operatorIds {body : CreateOperatorRequest} {w w' : World}
    (h : RowsAfter body w w') (hids : OperatorIds w) : OperatorIds w' := by
  cases h with
  | same hrows hnext =>
      constructor
      · rw [hrows]
        exact hids.nodup
      · intro o ho
        rw [hrows] at ho
        exact Nat.lt_of_lt_of_le (hids.next o ho) hnext
  | added row hid _ _ hrows hnext =>
      constructor
      · rw [hrows, List.map_append, List.map_singleton]
        apply List.Nodup.append hids.nodup (List.nodup_singleton _)
        intro id hmem hlast
        rcases List.mem_map.mp hmem with ⟨o, ho, heq⟩
        rw [List.mem_singleton.mp hlast, hid] at heq
        exact Nat.ne_of_lt (hids.next o ho) heq
      · intro o ho
        rw [hrows] at ho
        rw [hnext]
        rcases List.mem_append.mp ho with hmem | hlast
        · exact Nat.lt_succ_of_lt (hids.next o hmem)
        · rw [List.mem_singleton.mp hlast, hid]
          exact Nat.lt_succ_self _

theorem operatorIds_deleteOperator {w : World} (hids : OperatorIds w) (operatorId : Nat) :
    OperatorIds (Operators.deleteOperator operatorId w) := by
  constructor
  · exact hids.nodup.sublist (List.filter_sublist.map _)
  · intro o ho
    exact hids.next o (List.mem_of_mem_filter ho)

/-- The rows of a tenant after something that leaves it alone. -/
structure LeavesTenant (tenantId : String) (d d' : Directory) : Prop where
  tenants : d'.db.tenants.filter (fun t => t.id = tenantId) =
    d.db.tenants.filter fun t => t.id = tenantId
  grants : d'.db.listGrants tenantId = d.db.listGrants tenantId
  operators : forall o, o ∈ d.world.operators -> o.tenantId = tenantId -> o ∈ d'.world.operators

theorem LeavesTenant.refl (tenantId : String) (d : Directory) : LeavesTenant tenantId d d :=
  ⟨rfl, rfl, fun _ ho _ => ho⟩

theorem LeavesTenant.trans {tenantId : String} {d d' d'' : Directory}
    (h : LeavesTenant tenantId d d') (h' : LeavesTenant tenantId d' d'') :
    LeavesTenant tenantId d d'' :=
  ⟨h'.tenants.trans h.tenants, h'.grants.trans h.grants,
    fun o ho htenant => h'.operators o (h.operators o ho htenant) htenant⟩

variable {dep : Deployment} {d : Directory} {tenantId : String} {call : DirectoryCall}

theorem createTenantEndpoint_error {strip : String -> String} {newId : String}
    {entity : AuthenticatedEntity} (hentity : isSuperadmin entity = false)
    (body : CreateTenantRequest) (db db' : Database) :
    createTenantEndpoint strip newId entity body db ≠ .ok db' := by
  unfold createTenantEndpoint
  rw [hentity]
  intro h
  cases h

theorem RowsAfter.mem {body : CreateOperatorRequest} {w w' : World} (h : RowsAfter body w w')
    {o : Operator} (ho : o ∈ w.operators) : o ∈ w'.operators := by
  cases h with
  | same hrows _ => exact hrows ▸ ho
  | added row _ _ _ hrows _ =>
      rw [hrows]
      exact List.mem_append_left _ ho

theorem createOperatorEndpoint_cases (dep : Deployment) (d : Directory)
    (failing : Option RequestSite) (entity : AuthenticatedEntity) (body : CreateOperatorRequest) :
    (createOperatorEndpoint dep failing entity body d).2 = d ∨
      (Holds d.db entity body.tenantId "editor" ∧ exists w,
        (createOperatorEndpoint dep failing entity body d).2 = { d with world := w } ∧
          RowsAfter body d.world w) := by
  unfold createOperatorEndpoint
  split
  · exact Or.inl rfl
  · rename_i role hrole
    split
    · exact Or.inl rfl
    · have hrows := rowsAfter_provisionOperator dep.build dep.config failing
        (Operators.operatorName body.group body.name) body d.world
      generalize Operators.provisionOperator dep.build dep.config failing
        (Operators.operatorName body.group body.name) body.group body.tenantId
        d.world = outcome at hrows ⊢
      rcases outcome with ⟨e | operator, w⟩
      · exact Or.inr ⟨⟨role, hrole⟩, w, rfl, hrows⟩
      · exact Or.inr ⟨⟨role, hrole⟩, w, rfl, hrows⟩

theorem deleteOperatorEndpoint_ok {entity : AuthenticatedEntity} {operatorId : Nat}
    {d' : Directory} (h : deleteOperatorEndpoint entity operatorId d = .ok d') :
    exists operator, getOperator operatorId d.world = some operator ∧
      Holds d.db entity operator.tenantId "admin" ∧
      d' = { d with world := Operators.deleteOperator operatorId d.world } := by
  unfold deleteOperatorEndpoint at h
  split at h
  · cases h
  · rename_i operator hfound
    rcases bind_eq_ok.mp h with ⟨role, hrole, h⟩
    cases h
    exact ⟨operator, hfound, ⟨role, hrole⟩, rfl⟩

theorem eq_of_getOperator {w : World} (hids : OperatorIds w) {operatorId : Nat}
    {operator o : Operator} (hfound : getOperator operatorId w = some operator)
    (ho : o ∈ w.operators) (hid : o.id = operatorId) : operator = o := by
  have hown := (find?_key hids.nodup).mpr ⟨ho, hid⟩
  exact Option.some.inj (hfound.symm.trans hown)

theorem written_cases (d : Directory) (outcome : Except PyException Database) :
    (d.written outcome).world = d.world ∧
      ((d.written outcome).db = d.db ∨ outcome = .ok (d.written outcome).db) := by
  cases outcome with
  | error e => exact ⟨rfl, Or.inl rfl⟩
  | ok db => exact ⟨rfl, Or.inr rfl⟩

/-- What a call can do to the operators. -/
theorem apply_world (dep : Deployment) (d : Directory) (call : DirectoryCall) :
    (call.apply dep d).world = d.world ∨
      (exists body, Holds d.db call.entity body.tenantId "editor" ∧
        RowsAfter body d.world (call.apply dep d).world) ∨
      exists operatorId operator, getOperator operatorId d.world = some operator ∧
        Holds d.db call.entity operator.tenantId "admin" ∧
        (call.apply dep d).world = Operators.deleteOperator operatorId d.world := by
  rcases call with ⟨entity, request⟩
  unfold DirectoryCall.apply
  cases request with
  | createTenant newId body => exact Or.inl (written_cases d _).1
  | updateTenant target name => exact Or.inl (written_cases d _).1
  | role target request => exact Or.inl (written_cases d _).1
  | createOperator failing body =>
      dsimp only
      rcases createOperatorEndpoint_cases dep d failing entity body with
        hsame | ⟨hrole, w, hworld, hrows⟩
      · rw [hsame]
        exact Or.inl rfl
      · rw [hworld]
        exact Or.inr (Or.inl ⟨body, hrole, hrows⟩)
  | deleteOperator operatorId =>
      dsimp only
      split
      · rename_i d' hdeleted
        rcases deleteOperatorEndpoint_ok hdeleted with ⟨operator, hfound, hrole, heq⟩
        rw [heq]
        exact Or.inr (Or.inr ⟨operatorId, operator, hfound, hrole, rfl⟩)
      · exact Or.inl rfl

/-- What a call can do to the tables. -/
theorem apply_db (dep : Deployment) (d : Directory) (call : DirectoryCall) :
    (call.apply dep d).db = d.db ∨
      (exists newId body,
        createTenantEndpoint dep.strip newId call.entity body d.db = .ok (call.apply dep d).db) ∨
      (exists target name,
        updateTenantEndpoint dep.strip call.entity target name d.db =
          .ok (call.apply dep d).db) ∨
      exists target request,
        RoleCall.run ⟨call.entity, target, request⟩ d.db = .ok (call.apply dep d).db := by
  rcases call with ⟨entity, request⟩
  unfold DirectoryCall.apply
  cases request with
  | createTenant newId body =>
      exact (written_cases d _).2.imp_right fun h => Or.inl ⟨newId, body, h⟩
  | updateTenant target name =>
      exact (written_cases d _).2.imp_right fun h => Or.inr (Or.inl ⟨target, name, h⟩)
  | role target request =>
      exact (written_cases d _).2.imp_right fun h => Or.inr (Or.inr ⟨target, request, h⟩)
  | createOperator failing body =>
      left
      dsimp only
      rcases createOperatorEndpoint_cases dep d failing entity body with hsame | ⟨_, w, hworld, _⟩
      · rw [hsame]
      · rw [hworld]
  | deleteOperator operatorId =>
      left
      dsimp only
      split
      · rename_i d' hdeleted
        rcases deleteOperatorEndpoint_ok hdeleted with ⟨_, _, _, heq⟩
        rw [heq]
      · rfl

theorem updateTenant_others {db db' : Database} {target name : String} (hne : tenantId ≠ target)
    (h : db.updateTenant target name = some db') :
    db'.tenants.filter (fun t => t.id = tenantId) =
      db.tenants.filter fun t => t.id = tenantId := by
  rw [(updateTenant_some h).2]
  dsimp only
  rw [List.filter_map]
  have hfilter : db.tenants.filter ((fun t : Tenant => decide (t.id = tenantId)) ∘ fun t =>
        if t.id = target then { t with name := name } else t) =
      db.tenants.filter fun t => t.id = tenantId := by
    apply List.filter_congr
    intro t _
    rw [Function.comp_apply]
    split <;> rfl
  rw [hfilter]
  apply (List.map_congr_left _).trans (List.map_id _)
  intro t ht
  rw [if_neg fun heq => hne ((of_decide_eq_true (List.mem_filter.mp ht).2).symm.trans heq)]
  rfl

/-- A call of somebody who does not administer the tenant leaves it alone. -/
theorem leavesTenant_apply (dep : Deployment) (hids : OperatorIds d.world)
    (hentity : isSuperadmin call.entity = false)
    (hcaller : ¬ Holds d.db call.entity tenantId "admin") :
    LeavesTenant tenantId d (call.apply dep d) := by
  have htables : (call.apply dep d).db.tenants.filter (fun t => t.id = tenantId) =
        d.db.tenants.filter (fun t => t.id = tenantId) ∧
      (call.apply dep d).db.listGrants tenantId = d.db.listGrants tenantId := by
    rcases apply_db dep d call with hsame | ⟨newId, body, h⟩ | ⟨target, name, h⟩ |
      ⟨target, request, h⟩
    · rw [hsame]
      exact ⟨rfl, rfl⟩
    · exact absurd h (createTenantEndpoint_error hentity body d.db _)
    · rcases updateTenantEndpoint_ok h with ⟨hrole, _, hupdated⟩
      refine ⟨updateTenant_others (fun heq => hcaller (heq ▸ hrole)) hupdated, ?_⟩
      rw [(updateTenant_some hupdated).2]
      rfl
    · rcases RoleCall.others h with ⟨htenants, hrole, hgrants⟩
      rw [htenants]
      exact ⟨rfl, hgrants tenantId fun heq => hcaller (heq ▸ hrole)⟩
  refine ⟨htables.1, htables.2, fun o ho htenant => ?_⟩
  rcases apply_world dep d call with hsame | ⟨body, _, hrows⟩ |
    ⟨operatorId, operator, hfound, hrole, hdeleted⟩
  · exact hsame ▸ ho
  · exact hrows.mem ho
  · rw [hdeleted]
    apply List.mem_filter.mpr
    refine ⟨ho, decide_eq_true fun hid => ?_⟩
    have hrow := eq_of_getOperator hids hfound ho hid
    exact hcaller (htenant ▸ hrow ▸ hrole)

theorem operatorIds_apply (hids : OperatorIds d.world) (call : DirectoryCall) :
    OperatorIds (call.apply dep d).world := by
  rcases apply_world dep d call with hsame | ⟨body, _, hrows⟩ | ⟨operatorId, _, _, _, hdeleted⟩
  · rw [hsame]
    exact hids
  · exact hrows.operatorIds hids
  · rw [hdeleted]
    exact operatorIds_deleteOperator hids operatorId

/-- An operator of the tenant that a call adds is added by an editor. -/
theorem newOperator_apply (hentity : Holds d.db call.entity tenantId "editor" -> False)
    {o : Operator} (ho : o ∈ (call.apply dep d).world.operators) (htenant : o.tenantId = tenantId) :
    o ∈ d.world.operators := by
  rcases apply_world dep d call with hsame | ⟨body, hrole, hrows⟩ | ⟨operatorId, _, _, _, hdeleted⟩
  · exact hsame ▸ ho
  · cases hrows with
    | same hrows _ => exact hrows ▸ ho
    | added row _ hrow _ hrows _ =>
        rw [hrows] at ho
        rcases List.mem_append.mp ho with hmem | hlast
        · exact hmem
        · rw [List.mem_singleton.mp hlast, hrow] at htenant
          exact absurd (htenant ▸ hrole) hentity
  · rw [hdeleted] at ho
    exact List.mem_of_mem_filter ho

/-- Callers who do not administer a tenant leave it alone together, whatever they do to each
other's tenants in any order: its name, its grants and its operators stay, and only editors of
it can add operators. -/
theorem bystanders_leave_tenant (dep : Deployment) {d : Directory} (hids : OperatorIds d.world)
    (tenantId : String) (calls : List DirectoryCall)
    (hcallers : forall call, call ∈ calls ->
      isSuperadmin call.entity = false ∧ ¬ Holds d.db call.entity tenantId "admin") :
    LeavesTenant tenantId d (afterCalls dep d calls) ∧
      ((forall call, call ∈ calls -> ¬ Holds d.db call.entity tenantId "editor") ->
        forall o, o.tenantId = tenantId ->
          (o ∈ (afterCalls dep d calls).world.operators <-> o ∈ d.world.operators)) := by
  induction calls generalizing d with
  | nil => exact ⟨.refl tenantId d, fun _ _ _ => Iff.rfl⟩
  | cons call rest ih =>
      rcases List.forall_mem_cons.mp hcallers with ⟨⟨hentity, hcaller⟩, hrest⟩
      have hfirst := leavesTenant_apply dep hids hentity hcaller
      have hstill : forall minimum other, Holds (call.apply dep d).db other tenantId minimum <->
          Holds d.db other tenantId minimum :=
        fun minimum other => holds_of_grants hfirst.grants other minimum
      rcases ih (operatorIds_apply hids call) fun other hother =>
        ⟨(hrest other hother).1, fun h => (hrest other hother).2 ((hstill _ _).mp h)⟩
        with ⟨hleaves, hadds⟩
      refine ⟨hfirst.trans hleaves, fun heditors o htenant => ?_⟩
      rcases List.forall_mem_cons.mp heditors with ⟨heditor, hothers⟩
      have hafter := hadds (fun other hother h => hothers other hother ((hstill _ _).mp h)) o
        htenant
      constructor
      · intro ho
        exact newOperator_apply heditor (hafter.mp ho) htenant
      · intro ho
        exact hafter.mpr (hfirst.operators o ho htenant)

def carl : AuthenticatedEntity := ⟨some "carl", none, none, some "admin"⟩

/-- Two tenants with administrators of their own, and an operator of the second. -/
def acmeAndGlobex : Directory where
  db :=
    { tenants := [⟨"t1", "acme"⟩, ⟨"t2", "globex"⟩]
      grants :=
        [⟨"t1", "ann", "user", "admin"⟩, ⟨"t1", "/acme-admin", "group", "admin"⟩,
          ⟨"t2", "carl", "user", "admin"⟩, ⟨"t2", "ann", "user", "viewer"⟩] }
  world :=
    { Operators.noOperators with operators := [⟨0, "pay", "/pay", "t2", 7⟩], nextOperator := 1 }

def plainDeployment : Deployment where
  strip name := name
  str _ := "failed"
  build := Operators.onePageKong
  config := Operators.namedContactPoints

/-- What the administrators of the first tenant try on the second. -/
def intrusions : List DirectoryCall :=
  [⟨ann, .role "t2" (.addRole ⟨"bob", "user", "admin"⟩)⟩,
    ⟨bob, .role "t1" (.addRole ⟨"carl", "user", "viewer"⟩)⟩, ⟨ann, .updateTenant "t2" "acme2"⟩,
    ⟨bob, .deleteOperator 0⟩, ⟨bob, .createOperator none ⟨"/acme-admin", "t2", none⟩⟩]

theorem operatorIds_acmeAndGlobex : OperatorIds acmeAndGlobex.world := by
  constructor <;> decide

theorem intrusions_leave_globex :
    LeavesTenant "t2" acmeAndGlobex (afterCalls plainDeployment acmeAndGlobex intrusions) ∧
      ((forall call, call ∈ intrusions -> ¬ Holds acmeAndGlobex.db call.entity "t2" "editor") ->
        forall o, o.tenantId = "t2" ->
          (o ∈ (afterCalls plainDeployment acmeAndGlobex intrusions).world.operators <->
            o ∈ acmeAndGlobex.world.operators)) :=
  bystanders_leave_tenant plainDeployment operatorIds_acmeAndGlobex "t2" intrusions (by decide)

/-!
## The tables over a run
-/

/-- The keys of the tables, and a known role in every grant. -/
structure Database.Sound (db : Database) : Prop where
  tenantIds : (db.tenants.map Tenant.id).Nodup
  tenantNames : (db.tenants.map Tenant.name).Nodup
  grantKeys : (db.grants.map fun g => (g.tenantId, g.subject)).Nodup
  roles : forall g, g ∈ db.grants -> (roleStrength g.role).isSome = true

theorem validateRoleMapping_ok {m : RoleAssignment} (h : validateRoleMapping m = .ok ()) :
    (roleStrength m.role).isSome = true := by
  unfold validateRoleMapping at h
  split at h
  · cases h
  · split at h
    · cases h
    · rename_i hrole
      have hmem := Classical.not_not.mp hrole
      simp only [List.mem_cons, List.not_mem_nil, or_false] at hmem
      rcases hmem with heq | heq | heq <;> rw [heq] <;> rfl

theorem validateRoleMappings_ok {roleMappings : List RoleAssignment}
    (h : validateRoleMappings roleMappings = .ok ()) :
    (forall m, m ∈ roleMappings -> (roleStrength m.role).isSome = true) ∧
      (roleMappings.map RoleAssignment.subject).Nodup := by
  rcases bind_eq_ok.mp h with ⟨units, hunits, h⟩
  split at h
  · rename_i hnodup
    refine ⟨fun m hm => ?_, hnodup⟩
    rcases mapM_isOk.mp ⟨units, hunits⟩ m hm with ⟨_, hvalid⟩
    exact validateRoleMapping_ok hvalid
  · cases h

theorem sound_createTenantAtomic {db db' : Database} (hdb : db.Sound) {id name : String}
    {roleMappings : List RoleAssignment}
    (hroles : forall m, m ∈ roleMappings -> (roleStrength m.role).isSome = true)
    (hsubjects : (roleMappings.map RoleAssignment.subject).Nodup)
    (h : db.createTenantAtomic id name roleMappings = some db') : db'.Sound := by
  unfold Database.createTenantAtomic at h
  split at h
  · cases h
  · rename_i hfree
    split at h
    · cases h
    · rename_i hkeys
      cases h
      have hother : forall t, t ∈ db.tenants -> t.id ≠ id ∧ t.name ≠ name := by
        intro t ht
        constructor
        · intro heq
          exact hfree (List.any_eq_true.mpr ⟨t, ht, by simp [heq]⟩)
        · intro heq
          exact hfree (List.any_eq_true.mpr ⟨t, ht, by simp [heq]⟩)
      constructor
      · rw [List.map_append]
        apply List.Nodup.append hdb.tenantIds (List.nodup_singleton _)
        intro key hmem hlast
        rcases List.mem_map.mp hmem with ⟨t, ht, heq⟩
        exact (hother t ht).1 (heq.trans (List.mem_singleton.mp hlast))
      · rw [List.map_append]
        apply List.Nodup.append hdb.tenantNames (List.nodup_singleton _)
        intro key hmem hlast
        rcases List.mem_map.mp hmem with ⟨t, ht, heq⟩
        exact (hother t ht).2 (heq.trans (List.mem_singleton.mp hlast))
      · rw [List.map_append, List.map_map]
        apply List.Nodup.append hdb.grantKeys
        · have hpairs := hsubjects.map (f := fun subject => (id, subject)) fun a b heq =>
            (Prod.mk.inj heq).2
          rw [List.map_map] at hpairs
          exact hpairs
        · intro key hmem hlast
          rcases List.mem_map.mp hmem with ⟨g, hg, heq⟩
          rcases List.mem_map.mp hlast with ⟨m, hm, heq'⟩
          apply hkeys
          apply List.any_eq_true.mpr
          refine ⟨m, hm, List.any_eq_true.mpr ⟨g, hg, ?_⟩⟩
          rw [← heq'] at heq
          exact isGrantOf_iff.mpr (Prod.mk.inj heq)
      · intro g hg
        rcases List.mem_append.mp hg with hmem | hnew
        · exact hdb.roles g hmem
        · rcases List.mem_map.mp hnew with ⟨m, hm, heq⟩
          rw [← heq]
          exact hroles m hm

theorem sound_addGrant {db : Database} (hdb : db.Sound) (tenantId : String) {m : RoleAssignment}
    (hrole : (roleStrength m.role).isSome = true) : (db.addGrant tenantId m).Sound := by
  unfold Database.addGrant
  split
  · rename_i hnone
    refine ⟨hdb.tenantIds, hdb.tenantNames, ?_, ?_⟩
    · rw [List.map_append]
      apply List.Nodup.append hdb.grantKeys (List.nodup_singleton _)
      intro key hmem hlast
      rcases List.mem_map.mp hmem with ⟨g, hg, heq⟩
      rw [List.mem_singleton.mp hlast] at heq
      exact List.find?_eq_none.mp hnone g hg (isGrantOf_iff.mpr (Prod.mk.inj heq))
    · intro g hg
      rcases List.mem_append.mp hg with hmem | hnew
      · exact hdb.roles g hmem
      · rw [List.mem_singleton.mp hnew]
        exact hrole
  · refine ⟨hdb.tenantIds, hdb.tenantNames, ?_, ?_⟩
    · dsimp only
      rw [List.map_map]
      have hkeys : (fun g : TenantRoleGrant => (g.tenantId, g.subject)) ∘ (fun g =>
            if isGrantOf tenantId m.subject g then
              { g with subjectType := m.subjectType, role := m.role } else g) =
          fun g => (g.tenantId, g.subject) := by
        funext g
        rw [Function.comp_apply]
        split <;> rfl
      rw [hkeys]
      exact hdb.grantKeys
    · intro g hg
      rcases List.mem_map.mp hg with ⟨before, hbefore, heq⟩
      rw [← heq]
      split
      · exact hrole
      · exact hdb.roles before hbefore

theorem sound_removeGrant {db db' : Database} (hdb : db.Sound) {tenantId subject : String}
    (h : db.removeGrant tenantId subject = some db') : db'.Sound := by
  unfold Database.removeGrant at h
  split at h
  · cases h
  · cases h
    exact ⟨hdb.tenantIds, hdb.tenantNames, hdb.grantKeys.sublist (List.filter_sublist.map _),
      fun g hg => hdb.roles g (List.mem_of_mem_filter hg)⟩

theorem sound_updateTenant {db db' : Database} (hdb : db.Sound) {tenantId name : String}
    (h : db.updateTenant tenantId name = some db') : db'.Sound := by
  rcases updateTenant_some h with ⟨hfree, heq⟩
  rw [heq]
  refine ⟨?_, ?_, hdb.grantKeys, hdb.roles⟩
  · dsimp only
    rw [List.map_map]
    have hids : Tenant.id ∘ (fun t : Tenant =>
        if t.id = tenantId then { t with name := name } else t) = Tenant.id := by
      funext t
      rw [Function.comp_apply]
      split <;> rfl
    rw [hids]
    exact hdb.tenantIds
  · dsimp only
    rw [List.map_map]
    apply List.Nodup.map_on _ hdb.tenantIds.of_map
    intro t ht u hu hname
    simp only [Function.comp_apply] at hname
    by_cases htid : t.id = tenantId
    · by_cases huid : u.id = tenantId
      · exact List.inj_on_of_nodup_map hdb.tenantIds ht hu (htid.trans huid.symm)
      · rw [if_pos htid, if_neg huid] at hname
        exact absurd hname.symm (hfree u hu huid)
    · by_cases huid : u.id = tenantId
      · rw [if_neg htid, if_pos huid] at hname
        exact absurd hname (hfree t ht htid)
      · rw [if_neg htid, if_neg huid] at hname
        exact List.inj_on_of_nodup_map hdb.tenantNames ht hu hname

theorem sound_createTenantEndpoint {strip : String -> String} {newId : String}
    {entity : AuthenticatedEntity} {body : CreateTenantRequest} {db db' : Database}
    (hdb : db.Sound) (h : createTenantEndpoint strip newId entity body db = .ok db') :
    db'.Sound := by
  unfold createTenantEndpoint at h
  split at h
  · cases h
  · split at h
    · cases h
    · rcases bind_eq_ok.mp h with ⟨_, hvalid, h⟩
      rcases validateRoleMappings_ok hvalid with ⟨hroles, hsubjects⟩
      split at h
      · split at h
        · cases h
        · rename_i created hcreated
          cases h
          exact sound_createTenantAtomic hdb hroles hsubjects hcreated
      · cases h

theorem RoleCall.sound {call : RoleCall} {db db' : Database} (hdb : db.Sound)
    (h : call.run db = .ok db') : db'.Sound := by
  rcases call with ⟨entity, tenantId, request⟩
  cases request with
  | addRole body =>
      rcases bind_eq_ok.mp h with ⟨_, _, h⟩
      rcases bind_eq_ok.mp h with ⟨_, hvalid, h⟩
      rcases bind_eq_ok.mp h with ⟨_, _, h⟩
      cases h
      exact sound_addGrant hdb tenantId ((validateRoleMappings_ok hvalid).1 body
        List.mem_cons_self)
  | removeRole subject =>
      rcases bind_eq_ok.mp h with ⟨_, _, h⟩
      rcases bind_eq_ok.mp h with ⟨_, _, h⟩
      dsimp only at h
      split at h
      · cases h
      · rename_i removed hremoved
        cases h
        exact sound_removeGrant hdb hremoved

/-- What every call keeps. -/
structure Directory.Sound (d : Directory) : Prop where
  db : d.db.Sound
  operatorIds : OperatorIds d.world

theorem Directory.Sound.apply (hd : d.Sound) (call : DirectoryCall) : (call.apply dep d).Sound := by
  refine ⟨?_, operatorIds_apply hd.operatorIds call⟩
  rcases apply_db dep d call with hsame | ⟨newId, body, h⟩ | ⟨target, name, h⟩ |
    ⟨target, request, h⟩
  · rw [hsame]
    exact hd.db
  · exact sound_createTenantEndpoint hd.db h
  · exact sound_updateTenant hd.db (updateTenantEndpoint_ok h).2.2
  · exact RoleCall.sound hd.db h

theorem Directory.Sound.afterCalls (dep : Deployment) (hd : d.Sound) (calls : List DirectoryCall) :
    (Tenants.afterCalls dep d calls).Sound := by
  induction calls generalizing d with
  | nil => exact hd
  | cons call rest ih => exact ih (hd.apply call)

/-!
## What the reads show
-/

theorem roleStrength_pos {role : String} {strength : Nat} (h : roleStrength role = some strength) :
    1 <= strength := by
  unfold roleStrength at h
  split at h
  · cases h
    decide
  · cases h
    decide
  · cases h
    decide
  · cases h

theorem holds_viewer_of_role {db : Database} {entity : AuthenticatedEntity} {tenantId role : String}
    (hrole : resolveTenantRole db entity tenantId = some role)
    (hknown : (roleStrength role).isSome = true) : Holds db entity tenantId "viewer" := by
  rcases Option.isSome_iff_exists.mp hknown with ⟨strength, hstrength⟩
  refine ⟨role, ?_⟩
  unfold assertTenantRole
  dsimp only
  rw [hrole]
  show (strengthOf role >>= fun strength => strengthOf "viewer" >>= fun needed =>
    if strength < needed then Except.error _ else Except.ok role) = _
  unfold strengthOf
  rw [hstrength]
  exact if_neg (Nat.not_lt.mpr (roleStrength_pos hstrength))

theorem resolves_of_holds {db : Database} {entity : AuthenticatedEntity}
    {tenantId minimum : String} (h : Holds db entity tenantId minimum) :
    (resolveTenantRole db entity tenantId).isSome = true := by
  rcases h with ⟨role, h⟩
  unfold assertTenantRole at h
  dsimp only at h
  split at h
  · cases h
  · rename_i found hfound
    rw [hfound]
    rfl

/-- With known roles the check for a viewer asks for any grant. -/
theorem holds_viewer_iff {db : Database} (hdb : db.Sound) (entity : AuthenticatedEntity)
    (tenantId : String) :
    Holds db entity tenantId "viewer" <-> isSuperadmin entity = true ∨
      exists g, g ∈ db.grants ∧ g.tenantId = tenantId ∧ g.subject ∈ getSubjects entity := by
  cases hentity : isSuperadmin entity with
  | true =>
      have hrole : resolveTenantRole db entity tenantId = some "admin" := if_pos hentity
      exact iff_of_true (holds_viewer_of_role hrole rfl) (Or.inl rfl)
  | false =>
      have hresolve : resolveTenantRole db entity tenantId =
          db.getTenantRoleForSubjects tenantId (getSubjects entity) := by
        unfold resolveTenantRole
        rw [hentity]
        rfl
      constructor
      · intro h
        right
        rcases Option.isSome_iff_exists.mp (resolves_of_holds h) with ⟨role, hrole⟩
        rw [hresolve] at hrole
        unfold Database.getTenantRoleForSubjects at hrole
        split at hrole
        · cases hrole
        · rcases List.mem_map.mp (strongest_mem hrole) with ⟨g, hg, _⟩
          rcases List.mem_filter.mp hg with ⟨hmem, hread⟩
          exact ⟨g, hmem, of_decide_eq_true hread⟩
      · intro h
        rcases h with hsuper | ⟨g, hg, htenant, hsubject⟩
        · cases hsuper
        · have hread : g.role ∈ db.rolesOf tenantId (getSubjects entity) :=
            List.mem_map_of_mem (List.mem_filter.mpr ⟨hg, decide_eq_true ⟨htenant, hsubject⟩⟩)
          have hsome : exists role, resolveTenantRole db entity tenantId = some role := by
            rw [hresolve]
            unfold Database.getTenantRoleForSubjects
            rw [if_neg (List.ne_nil_of_mem hsubject)]
            cases hroles : db.rolesOf tenantId (getSubjects entity) with
            | nil =>
                rw [hroles] at hread
                cases hread
            | cons first rest => exact ⟨_, rfl⟩
          rcases hsome with ⟨role, hrole⟩
          have hmem := hrole
          rw [hresolve] at hmem
          unfold Database.getTenantRoleForSubjects at hmem
          rw [if_neg (List.ne_nil_of_mem hsubject)] at hmem
          rcases List.mem_map.mp (strongest_mem hmem) with ⟨other, hother, heq⟩
          apply holds_viewer_of_role hrole
          rw [← heq]
          exact hdb.roles other (List.mem_of_mem_filter hother)

theorem mem_listTenants_iff (hd : d.db.Sound) (entity : AuthenticatedEntity) (t : Tenant) :
    t ∈ listTenantsEndpoint entity d <->
      t ∈ d.db.tenants ∧ Holds d.db entity t.id "viewer" := by
  rw [holds_viewer_iff hd]
  unfold listTenantsEndpoint
  cases hentity : isSuperadmin entity with
  | true => simp
  | false =>
      simp only [Bool.false_eq_true, if_false, false_or]
      unfold Database.getTenantsForSubjects
      split
      · rename_i hnil
        simp [hnil]
      · dsimp only
        split
        · rename_i hnone
          constructor
          · intro h
            cases h
          · intro h
            rcases h.2 with ⟨g, hg, _, hsubject⟩
            have hmem : g ∈ d.db.grants.filter fun g => g.subject ∈ getSubjects entity :=
              List.mem_filter.mpr ⟨hg, decide_eq_true hsubject⟩
            rw [List.map_eq_nil_iff.mp hnone] at hmem
            cases hmem
        · rw [List.mem_filter, decide_eq_true_eq, List.mem_map]
          apply and_congr_right
          intro _
          constructor
          · intro h
            rcases h with ⟨g, hg, heq⟩
            rcases List.mem_filter.mp hg with ⟨hmem, hsubject⟩
            exact ⟨g, hmem, heq, of_decide_eq_true hsubject⟩
          · intro h
            rcases h with ⟨g, hg, heq, hsubject⟩
            exact ⟨g, List.mem_filter.mpr ⟨hg, decide_eq_true hsubject⟩, heq⟩

theorem getTenantEndpoint_eq_ok (entity : AuthenticatedEntity) (tenantId : String)
    (details : TenantDetails) :
    getTenantEndpoint entity tenantId d = .ok details <->
      Holds d.db entity tenantId "viewer" ∧ exists tenant,
        d.db.getTenant tenantId = some tenant ∧ details =
          { id := tenant.id
            name := tenant.name
            roles := (d.db.listGrants tenantId).map fun g => ⟨g.subject, g.subjectType, g.role⟩
            operators := (getOperators (some tenantId) d.world).map fun o =>
              ⟨o.id, o.name, o.group⟩ } := by
  unfold getTenantEndpoint
  constructor
  · intro h
    rcases bind_eq_ok.mp h with ⟨role, hrole, h⟩
    split at h
    · cases h
    · rename_i tenant htenant
      cases h
      exact ⟨⟨role, hrole⟩, tenant, htenant, rfl⟩
  · intro h
    rcases h with ⟨⟨role, hrole⟩, tenant, htenant, heq⟩
    rw [hrole, htenant, heq]
    rfl

theorem getOperatorEndpoint_eq_ok (hids : OperatorIds d.world) {entity : AuthenticatedEntity}
    {operatorId : Nat} {o : Operator} :
    getOperatorEndpoint entity operatorId d = .ok o <->
      o ∈ d.world.operators ∧ o.id = operatorId ∧ Holds d.db entity o.tenantId "viewer" := by
  unfold getOperatorEndpoint
  constructor
  · intro h
    split at h
    · cases h
    · rename_i operator hfound
      rcases bind_eq_ok.mp h with ⟨role, hrole, h⟩
      cases h
      rcases (find?_key hids.nodup).mp hfound with ⟨ho, hid⟩
      exact ⟨ho, hid, role, hrole⟩
  · intro h
    rcases h with ⟨ho, hid, role, hrole⟩
    have hfound : getOperator operatorId d.world = some o :=
      (find?_key hids.nodup).mpr ⟨ho, hid⟩
    rw [hfound]
    dsimp only
    rw [hrole]
    rfl

/-- Over every run from a sound directory: the tenants that are listed to a caller are those that
open to the caller, under the same name, and an operator opens exactly if the list of its tenant
shows it. -/
theorem listed_iff_opened (dep : Deployment) {start : Directory} (hstart : start.Sound)
    (calls : List DirectoryCall) (entity : AuthenticatedEntity) :
    (forall t, t ∈ listTenantsEndpoint entity (afterCalls dep start calls) <->
      exists details, getTenantEndpoint entity t.id (afterCalls dep start calls) = .ok details ∧
        details.name = t.name) ∧
      forall operatorId o,
        getOperatorEndpoint entity operatorId (afterCalls dep start calls) = .ok o <->
          o.id = operatorId ∧ exists operators,
            listOperatorsEndpoint entity (some o.tenantId) (afterCalls dep start calls) =
              .ok operators ∧ o ∈ operators := by
  have hd := hstart.afterCalls dep calls
  generalize afterCalls dep start calls = d at hd
  constructor
  · intro t
    rw [mem_listTenants_iff hd.db]
    constructor
    · intro h
      exact ⟨_, (getTenantEndpoint_eq_ok entity t.id _).mpr
        ⟨h.2, t, (find?_key hd.db.tenantIds).mpr ⟨h.1, rfl⟩, rfl⟩, rfl⟩
    · intro h
      rcases h with ⟨details, hdetails, hname⟩
      rcases (getTenantEndpoint_eq_ok entity t.id details).mp hdetails with
        ⟨hholds, tenant, htenant, heq⟩
      rcases (find?_key hd.db.tenantIds).mp htenant with ⟨hmem, hid⟩
      rw [heq] at hname
      have hsame : tenant = t := by
        cases tenant
        cases t
        cases hid
        cases hname
        rfl
      exact ⟨hsame ▸ hmem, hholds⟩
  · intro operatorId o
    rw [getOperatorEndpoint_eq_ok hd.operatorIds]
    unfold listOperatorsEndpoint
    dsimp only
    constructor
    · intro h
      rcases h with ⟨ho, hid, role, hrole⟩
      refine ⟨hid, getOperators (some o.tenantId) d.world, ?_, ?_⟩
      · rw [hrole]
        rfl
      · exact List.mem_filter.mpr ⟨ho, decide_eq_true rfl⟩
    · intro h
      rcases h with ⟨hid, operators, hlisted, ho⟩
      rcases bind_eq_ok.mp hlisted with ⟨role, hrole, hlisted⟩
      cases hlisted
      exact ⟨List.mem_of_mem_filter ho, hid, role, hrole⟩

theorem sound_acmeAndGlobex : acmeAndGlobex.Sound := by
  refine ⟨?_, operatorIds_acmeAndGlobex⟩
  constructor <;> decide

theorem intrusions_listed_iff_opened :
    (forall t, t ∈ listTenantsEndpoint carl
        (afterCalls plainDeployment acmeAndGlobex intrusions) <->
      exists details, getTenantEndpoint carl t.id
          (afterCalls plainDeployment acmeAndGlobex intrusions) = .ok details ∧
        details.name = t.name) ∧
      forall operatorId o, getOperatorEndpoint carl operatorId
          (afterCalls plainDeployment acmeAndGlobex intrusions) = .ok o <->
        o.id = operatorId ∧ exists operators,
          listOperatorsEndpoint carl (some o.tenantId)
            (afterCalls plainDeployment acmeAndGlobex intrusions) = .ok operators ∧
            o ∈ operators :=
  listed_iff_opened plainDeployment sound_acmeAndGlobex intrusions carl

/-!
## What a caller is told
-/

/-- A subject of the caller has a grant on the tenant. -/
def visible (entity : AuthenticatedEntity) (db : Database) (tenantId : String) : Bool :=
  db.grants.any fun g => g.tenantId == tenantId && (getSubjects entity).contains g.subject

/-- The directories have the same rows for the tenants on which the caller has a grant. -/
structure SameView (entity : AuthenticatedEntity) (d d' : Directory) : Prop where
  tenants : d'.db.tenants.filter (fun t => visible entity d'.db t.id) =
    d.db.tenants.filter fun t => visible entity d.db t.id
  grants : d'.db.grants.filter (fun g => visible entity d'.db g.tenantId) =
    d.db.grants.filter fun g => visible entity d.db g.tenantId
  operators : d'.world.operators.filter (fun o => visible entity d'.db o.tenantId) =
    d.world.operators.filter fun o => visible entity d.db o.tenantId

variable {entity : AuthenticatedEntity} {d' : Directory}

theorem visible_iff {db : Database} :
    visible entity db tenantId = true <->
      exists g, g ∈ db.grants ∧ g.tenantId = tenantId ∧ g.subject ∈ getSubjects entity := by
  unfold visible
  rw [List.any_eq_true]
  simp only [Bool.and_eq_true, beq_iff_eq, List.contains_iff_mem]

/-- The grants that make tenants visible are on visible tenants. -/
theorem visible_of_grants {db : Database} :
    visible entity db tenantId = true <->
      exists g, g ∈ db.grants.filter (fun g => visible entity db g.tenantId) ∧
        g.tenantId = tenantId ∧ g.subject ∈ getSubjects entity := by
  rw [visible_iff]
  constructor
  · intro h
    rcases h with ⟨g, hg, htenant, hsubject⟩
    exact ⟨g, List.mem_filter.mpr ⟨hg, visible_iff.mpr ⟨g, hg, rfl, hsubject⟩⟩, htenant, hsubject⟩
  · intro h
    rcases h with ⟨g, hg, htenant, hsubject⟩
    exact ⟨g, List.mem_of_mem_filter hg, htenant, hsubject⟩

theorem SameView.visible (h : SameView entity d d') (tenantId : String) :
    Tenants.visible entity d'.db tenantId = Tenants.visible entity d.db tenantId := by
  apply Bool.eq_iff_iff.mpr
  rw [visible_of_grants, visible_of_grants, h.grants]

/-- Of rows with a tenant, those of a visible one are among the visible rows. -/
theorem filter_visible {α : Type} (tenantOf : α -> String) {db : Database}
    (h : visible entity db tenantId = true) (rows : List α) :
    rows.filter (fun row => tenantOf row = tenantId) =
      (rows.filter fun row => visible entity db (tenantOf row)).filter fun row =>
        tenantOf row = tenantId := by
  rw [List.filter_filter]
  apply List.filter_congr
  intro row _
  cases htenant : decide (tenantOf row = tenantId) with
  | false => rfl
  | true => rw [of_decide_eq_true htenant, h]; rfl

theorem SameView.listGrants (h : SameView entity d d')
    (hvisible : Tenants.visible entity d.db tenantId = true) :
    d'.db.listGrants tenantId = d.db.listGrants tenantId := by
  have hvisible' := (h.visible tenantId).trans hvisible
  unfold Database.listGrants
  rw [filter_visible TenantRoleGrant.tenantId hvisible' d'.db.grants,
    filter_visible TenantRoleGrant.tenantId hvisible d.db.grants, h.grants]

theorem rolesOf_of_invisible {db : Database} (h : visible entity db tenantId = false) :
    db.rolesOf tenantId (getSubjects entity) = [] := by
  unfold Database.rolesOf
  rw [List.map_eq_nil_iff, List.filter_eq_nil_iff]
  intro g hg hread
  rcases of_decide_eq_true hread with ⟨htenant, hsubject⟩
  exact Bool.eq_false_iff.mp h (visible_iff.mpr ⟨g, hg, htenant, hsubject⟩)

/-- The check for a role ends the same way. -/
theorem SameView.assertTenantRole (h : SameView entity d d') (tenantId minimum : String) :
    Tenants.assertTenantRole d'.db entity tenantId minimum =
      Tenants.assertTenantRole d.db entity tenantId minimum := by
  cases hvisible : Tenants.visible entity d.db tenantId with
  | true => exact assertTenantRole_of_grants (h.listGrants hvisible) entity minimum
  | false =>
      have hvisible' := (h.visible tenantId).trans hvisible
      unfold Tenants.assertTenantRole resolveTenantRole Database.getTenantRoleForSubjects
      rw [rolesOf_of_invisible hvisible, rolesOf_of_invisible hvisible']

theorem getTenantsForSubjects_eq (entity : AuthenticatedEntity) (db : Database) :
    db.getTenantsForSubjects (getSubjects entity) =
      db.tenants.filter fun t => visible entity db t.id := by
  have hread : forall tenantId, visible entity db tenantId = true <->
      tenantId ∈ (db.grants.filter fun g => g.subject ∈ getSubjects entity).map
        TenantRoleGrant.tenantId := by
    intro tenantId
    rw [visible_iff, List.mem_map]
    constructor
    · intro h
      rcases h with ⟨g, hg, htenant, hsubject⟩
      exact ⟨g, List.mem_filter.mpr ⟨hg, decide_eq_true hsubject⟩, htenant⟩
    · intro h
      rcases h with ⟨g, hg, htenant⟩
      rcases List.mem_filter.mp hg with ⟨hmem, hsubject⟩
      exact ⟨g, hmem, htenant, of_decide_eq_true hsubject⟩
  have hnone : (forall tenantId, visible entity db tenantId = false) ->
      (db.tenants.filter fun t => visible entity db t.id) = [] := by
    intro h
    rw [List.filter_eq_nil_iff]
    intro t _ ht
    exact Bool.eq_false_iff.mp (h t.id) ht
  unfold Database.getTenantsForSubjects
  split
  · rename_i hsubjects
    symm
    apply hnone
    intro tenantId
    apply Bool.eq_false_iff.mpr
    intro h
    rcases visible_iff.mp h with ⟨g, _, _, hsubject⟩
    rw [hsubjects] at hsubject
    cases hsubject
  · dsimp only
    split
    · rename_i hids
      symm
      apply hnone
      intro tenantId
      apply Bool.eq_false_iff.mpr
      intro h
      have hmem := (hread tenantId).mp h
      rw [hids] at hmem
      cases hmem
    · apply List.filter_congr
      intro t _
      apply Bool.eq_iff_iff.mpr
      rw [decide_eq_true_eq]
      exact (hread t.id).symm

theorem SameView.getTenant (h : SameView entity d d')
    (hvisible : Tenants.visible entity d.db tenantId = true) :
    d'.db.getTenant tenantId = d.db.getTenant tenantId := by
  have hfound : forall db : Database, Tenants.visible entity db tenantId = true ->
      db.getTenant tenantId =
        (db.tenants.filter fun t => Tenants.visible entity db t.id).find? fun t =>
          t.id == tenantId := by
    intro db hdb
    rw [List.find?_filter]
    unfold Database.getTenant
    congr 1
    funext t
    cases htenant : t.id == tenantId with
    | false => simp
    | true => simp [beq_iff_eq.mp htenant, hdb]
  rw [hfound d.db hvisible, hfound d'.db ((h.visible tenantId).trans hvisible), h.tenants]

theorem SameView.getOperators (h : SameView entity d d')
    (hvisible : Tenants.visible entity d.db tenantId = true) :
    Tenants.getOperators (some tenantId) d'.world = Tenants.getOperators (some tenantId) d.world := by
  have hvisible' := (h.visible tenantId).trans hvisible
  unfold Tenants.getOperators
  dsimp only
  rw [filter_visible Operator.tenantId hvisible' d'.world.operators,
    filter_visible Operator.tenantId hvisible d.world.operators, h.operators]

theorem visible_of_holds {db : Database} {minimum : String}
    (hentity : isSuperadmin entity = false) (h : Holds db entity tenantId minimum) :
    visible entity db tenantId = true := by
  cases hvisible : visible entity db tenantId with
  | true => rfl
  | false =>
      have hsome := resolves_of_holds h
      unfold resolveTenantRole Database.getTenantRoleForSubjects at hsome
      rw [hentity, rolesOf_of_invisible hvisible] at hsome
      simp [strongest] at hsome

/-- What a caller is told by any read is a matter of the tenants on which the caller has a grant:
the rows of the others, of which there can be any, change no answer, except that a missing
operator is told from a foreign one. -/
theorem answers_from_view (hentity : isSuperadmin entity = false) (hids : OperatorIds d.world)
    (hids' : OperatorIds d'.world) (h : SameView entity d d') :
    listTenantsEndpoint entity d' = listTenantsEndpoint entity d ∧
      (forall tenantId, getTenantEndpoint entity tenantId d' = getTenantEndpoint entity tenantId d) ∧
      (forall tenantId,
        listOperatorsEndpoint entity tenantId d' = listOperatorsEndpoint entity tenantId d) ∧
      forall operatorId o, getOperatorEndpoint entity operatorId d' = .ok o <->
        getOperatorEndpoint entity operatorId d = .ok o := by
  refine ⟨?_, fun tenantId => ?_, fun tenantId => ?_, fun operatorId o => ?_⟩
  · unfold listTenantsEndpoint
    rw [hentity, getTenantsForSubjects_eq, getTenantsForSubjects_eq, h.tenants]
    rfl
  · unfold getTenantEndpoint
    rw [h.assertTenantRole]
    cases hrole : assertTenantRole d.db entity tenantId "viewer" with
    | error e => rfl
    | ok role =>
        have hvisible := visible_of_holds hentity ⟨role, hrole⟩
        rw [h.getTenant hvisible, h.listGrants hvisible, h.getOperators hvisible]
  · cases tenantId with
    | none =>
        unfold listOperatorsEndpoint
        rw [hentity]
        rfl
    | some tenantId =>
        unfold listOperatorsEndpoint
        dsimp only
        rw [h.assertTenantRole]
        cases hrole : assertTenantRole d.db entity tenantId "viewer" with
        | error e => rfl
        | ok role => rw [h.getOperators (visible_of_holds hentity ⟨role, hrole⟩)]
  · rw [getOperatorEndpoint_eq_ok hids, getOperatorEndpoint_eq_ok hids']
    have hholds : Holds d'.db entity o.tenantId "viewer" <->
        Holds d.db entity o.tenantId "viewer" := by
      unfold Holds
      rw [h.assertTenantRole]
    rw [hholds]
    have hmem : Holds d.db entity o.tenantId "viewer" ->
        (o ∈ d'.world.operators <-> o ∈ d.world.operators) := by
      intro hrole
      have hvisible := visible_of_holds hentity hrole
      have hrow : o ∈ d'.world.operators.filter (fun o => visible entity d'.db o.tenantId) <->
          o ∈ d.world.operators.filter fun o => visible entity d.db o.tenantId := by
        rw [h.operators]
      rw [List.mem_filter, List.mem_filter, h.visible, hvisible] at hrow
      simpa using hrow
    constructor
    · intro hanswer
      exact ⟨(hmem hanswer.2.2).mp hanswer.1, hanswer.2⟩
    · intro hanswer
      exact ⟨(hmem hanswer.2.2).mpr hanswer.1, hanswer.2⟩

/-- The other tenant has another name, another group and one more operator. -/
def acmeAndOther : Directory where
  db :=
    { tenants := [⟨"t3", "initech"⟩, ⟨"t1", "acme"⟩]
      grants :=
        [⟨"t1", "ann", "user", "admin"⟩, ⟨"t3", "/initech", "group", "editor"⟩,
          ⟨"t1", "/acme-admin", "group", "admin"⟩] }
  world :=
    { Operators.noOperators with operators := [⟨4, "ops", "/ops", "t3", 9⟩], nextOperator := 5 }

theorem bob_answers :
    listTenantsEndpoint bob acmeAndOther = listTenantsEndpoint bob acmeAndGlobex ∧
      (forall tenantId, getTenantEndpoint bob tenantId acmeAndOther =
        getTenantEndpoint bob tenantId acmeAndGlobex) ∧
      (forall tenantId, listOperatorsEndpoint bob tenantId acmeAndOther =
        listOperatorsEndpoint bob tenantId acmeAndGlobex) ∧
      forall operatorId o, getOperatorEndpoint bob operatorId acmeAndOther = .ok o <->
        getOperatorEndpoint bob operatorId acmeAndGlobex = .ok o :=
  answers_from_view (by decide) operatorIds_acmeAndGlobex (by constructor <;> decide)
    (by constructor <;> decide)

end Tenants
end KeepGateway
