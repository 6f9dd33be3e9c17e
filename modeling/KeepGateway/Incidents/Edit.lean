import KeepGateway.Incidents.Store
import KeepGateway.Lib.Dict
import Mathlib.Data.Rat.Defs

/-!
# Editing an incident

`update_incident_from_dto_by_id` for the body of a user: every key of the body that is an
attribute of the row is assigned.  Rows are dictionaries of columns.
-/

namespace KeepGateway
namespace Incidents
namespace Edit

/-!
## Values
-/

/-- A value of a request or of a column. -/
inductive Value where
  | none
  | bool (b : Bool)
  | int (n : Int)
  | float (x : Rat)
  | str (s : String)
  | list (items : List Value)
  | dict (entries : List (String × Value))
  | uuid (n : Nat)
  | time (t : Nat)
  | severity (s : IncidentSeverity)

namespace Value

def numeric : Value -> Option Rat
  | bool true => some 1
  | bool false => some 0
  | int n => some n
  | float x => some x
  | _ => Option.none

def scalarEq : Value -> Value -> Bool
  | none, none => true
  | str a, str b => a == b
  | uuid a, uuid b => a == b
  | time a, time b => a == b
  | severity a, severity b => a == b
  | a, b =>
      match a.numeric, b.numeric with
      | some x, some y => x == y
      | _, _ => false

mutual

/-- `==` -/
def eq : Value -> Value -> Bool
  | list xs, list ys => eqItems xs ys
  | dict xs, dict ys => xs.length == ys.length && eqEntries xs ys
  | a, b => scalarEq a b

def eqItems : List Value -> List Value -> Bool
  | [], [] => true
  | x :: xs, y :: ys => eq x y && eqItems xs ys
  | _, _ => false

def eqEntries : List (String × Value) -> List (String × Value) -> Bool
  | [], _ => true
  | (key, x) :: xs, ys =>
      (match ys.lookup key with
        | some y => eq x y
        | Option.none => false) && eqEntries xs ys

end

end Value

def severityValue : IncidentSeverity -> String
  | .critical => "critical"
  | .high => "high"
  | .warning => "warning"
  | .info => "info"
  | .low => "low"

/-- Of an enumeration its `value` is assigned. -/
def Value.assigned : Value -> Value
  | severity s => str (severityValue s)
  | value => value

/-!
## Rows
-/

abbrev Row := List (String × Value)

def column (row : Row) (name : String) : Value := (row.lookup name).getD .none

/-- The columns of `Incident`. -/
def incidentColumns : List String :=
  ["id", "tenant_id", "running_number", "user_generated_name", "ai_generated_name",
    "user_summary", "generated_summary", "assignee", "severity", "forced_severity", "status",
    "creation_time", "start_time", "end_time", "last_seen_time", "is_predicted", "is_candidate",
    "is_visible", "alerts_count", "affected_services", "sources", "rule_id", "rule_fingerprint",
    "fingerprint", "incident_type", "incident_application", "resolve_on",
    "same_incident_in_the_past_id", "merged_into_incident_id", "merged_at", "merged_by"]

/-- The relationships to one row. -/
def references : List String := ["tenant", "same_incident_in_the_past", "merged_into"]

/-- The relationships to several rows, with the column of those that refers back. -/
def collections : List (String × String) :=
  [("same_incidents_in_the_future", "same_incident_in_the_past_id"),
    ("merged_incidents", "merged_into_incident_id")]

structure Table where
  rows : List Row
  primaryKey : (rows.map fun row => column row "id").Nodup

/-- What is outside: what a column stores of a value, where the database takes it; whether the
tables keep their constraints; and whether an attribute of the row that is neither a column nor
a relationship raises when it is assigned. -/
structure Environment where
  store : String -> Value -> Option Value
  accepts : List Row -> Bool
  rejects : String -> Value -> Bool

/-!
## Requests
-/

def declaredFields : List String :=
  ["user_generated_name", "assignee", "user_summary", "same_incident_in_the_past_id", "severity"]

structure IncidentDtoIn where
  userGeneratedName : Option String
  assignee : Option String
  userSummary : Option String
  sameIncidentInThePastId : Option Nat
  severity : Option IncidentSeverity
  extras : List (String × Value)
  distinct : Dict.Distinct extras
  undeclared : forall key, key ∈ extras.map Prod.fst -> key ∉ declaredFields
  noEnum : forall key s, (key, Value.severity s) ∉ extras

namespace IncidentDtoIn

variable (dto : IncidentDtoIn)

def summary : Value := dto.userSummary.elim .none .str

def pastId : Value := dto.sameIncidentInThePastId.elim .none .uuid

/-- `dict()` -/
def dict : List (String × Value) :=
  [("user_generated_name", dto.userGeneratedName.elim .none .str),
    ("assignee", dto.assignee.elim .none .str), ("user_summary", dto.summary),
    ("same_incident_in_the_past_id", dto.pastId),
    ("severity", dto.severity.elim .none .severity)] ++ dto.extras

end IncidentDtoIn

/-!
## Assigning
-/

/-- What was assigned: columns, and the columns that refer back from emptied collections. -/
structure Pending where
  columns : List (String × Value)
  emptied : List String

/-- The rows that refer back to the incident. -/
def children (table : Table) (id : Value) (name : String) : List Row :=
  table.rows.filter fun row => (column row name).eq id

/-- One step of the loop; no result is an exception of `setattr`. -/
def assign (env : Environment) (table : Table) (incident : Row) (pending : Pending)
    (key : String) (value : Value) : Option Pending :=
  if key ∈ incidentColumns then
    if (column incident key).eq value then some pending
    else
      match value with
      | .none => some pending
      | value => some { pending with columns := Dict.set key value.assigned pending.columns }
  else if key ∈ references then
    match value with
    | .none => some pending
    | _ => none
  else
    match collections.lookup key, value with
    | some _, .none => some pending
    | some name, .list [] =>
        if (children table (column incident "id") name).isEmpty then some pending
        else some { pending with emptied := name :: pending.emptied }
    | some _, _ => none
    | none, value => if env.rejects key value then none else some pending

def assignAll (env : Environment) (table : Table) (incident : Row) :
    Pending -> List (String × Value) -> Option Pending
  | pending, [] => some pending
  | pending, (key, value) :: rest =>
      match assign env table incident pending key value with
      | some pending => assignAll env table incident pending rest
      | none => none

/-- The columns that differ are written. -/
def flush (env : Environment) (incident : Row) : Row -> List (String × Value) -> Option Row
  | row, [] => some row
  | row, (key, value) :: rest =>
      if (column incident key).eq value then flush env incident row rest
      else
        match env.store key value with
        | some stored => flush env incident (Dict.set key stored row) rest
        | none => none

/-- A row that was in an emptied collection no longer refers back. -/
def release (emptied : List String) (id : Value) (before after : Row) : Row :=
  emptied.foldl
    (fun row name => if (column before name).eq id then Dict.set name .none row else row) after

/-- The rows after the call; no result is an exception, after which they are as before. -/
def updateIncidentFromDtoById (env : Environment) (table : Table) (tenantId : String) (id : Nat)
    (dto : IncidentDtoIn) (generatedByAi : Bool) : Option (List Row) :=
  match table.rows.find? fun row =>
      (column row "tenant_id").eq (.str tenantId) && (column row "id").eq (.uuid id) with
  | none => some table.rows
  | some incident => do
      let pending <- assignAll env table incident ⟨[], []⟩ dto.dict
      let columns := Dict.set "same_incident_in_the_past_id" dto.pastId pending.columns
      let summary := if generatedByAi then "generated_summary" else "user_summary"
      let row <- flush env incident incident (Dict.set summary dto.summary columns)
      let rows := table.rows.map fun other =>
        if (column other "id").eq (.uuid id) then
          release pending.emptied (.uuid id) incident row
        else release pending.emptied (.uuid id) other other
      if env.accepts rows then some rows else none

/-!
## What an editor may edit
-/

/-- The columns that an editor does not edit. -/
def frameColumns : List String :=
  ["id", "tenant_id", "running_number", "alerts_count", "sources", "affected_services", "rule_id",
    "merged_into_incident_id", "merged_by", "merged_at"]

/-- The severity of a row is the order of one. -/
def HasSeverity (row : Row) (s : IncidentSeverity) : Prop :=
  column row "severity" = .int s.order

/-- Only the row of the incident changes, outside the columns of the frame, and its severity is
the one that is given, or else the one it had. -/
def EditsOnly (table : Table) (id : Nat) (incident : Row) (dto : IncidentDtoIn)
    (after : List Row) : Prop :=
  exists row, after = table.rows.map (fun other =>
      if (column other "id").eq (.uuid id) then row else other) ∧
    (forall key, key ∈ frameColumns -> column row key = column incident key) ∧
    exists s, HasSeverity row s ∧
      match dto.severity with
      | some given => s = given
      | none => HasSeverity incident s

/-- A body that assigns nothing of the frame, detaches no other incident and gives no severity,
for an incident that has one. -/
structure OnlyEditable (env : Environment) (table : Table) (id : Nat) (incident : Row)
    (dto : IncidentDtoIn) : Prop where
  columns : forall key value, key ∈ frameColumns -> (key, value) ∈ dto.extras ->
    value ≠ .none -> (column incident key).eq value = false ->
      env.store key value = some (column incident key)
  merged : ("merged_incidents", .list []) ∈ dto.extras ->
    forall other, other ∈ table.rows -> column other "merged_into_incident_id" ≠ .uuid id
  future : ("same_incidents_in_the_future", .list []) ∈ dto.extras ->
    forall other, other ∈ table.rows -> column other "id" ≠ .uuid id ->
      column other "same_incident_in_the_past_id" ≠ .uuid id
  severity : dto.severity = none ∧ exists s, HasSeverity incident s

/-!
## Equality
-/

theorem Value.eq_uuid {value : Value} {n : Nat} : value.eq (.uuid n) = true <-> value = .uuid n := by
  cases value with
  | uuid m =>
      show (m == n) = true <-> _
      rw [beq_iff_eq, Value.uuid.injEq]
  | _ => simp [Value.eq, Value.scalarEq, Value.numeric]

theorem column_set (key name : String) (value : Value) (row : Row) :
    column (Dict.set key value row) name = if key = name then value else column row name := by
  unfold column
  rw [Dict.lookup_set]
  split
  · rfl
  · rfl

/-!
## The loop
-/

section Loop

variable {env : Environment} {table : Table} {incident : Row}

/-- What the loop assigns to a column for an entry. -/
def toAssign (incident : Row) (key : String) (value : Value) : Option Value :=
  if key ∈ incidentColumns then
    if (column incident key).eq value then none
    else
      match value with
      | .none => none
      | value => some value.assigned
  else none

/-- Which column refers back from the collection that an entry empties. -/
def toEmpty (table : Table) (incident : Row) (key : String) (value : Value) : Option String :=
  match collections.lookup key, value with
  | some name, .list [] =>
      if (children table (column incident "id") name).isEmpty then none else some name
  | _, _ => none

theorem lookup_collections {key name : String} (h : collections.lookup key = some name) :
    (key = "same_incidents_in_the_future" ∧ name = "same_incident_in_the_past_id") ∨
      (key = "merged_incidents" ∧ name = "merged_into_incident_id") := by
  unfold collections at h
  rw [Dict.lookup_cons_eq, Dict.lookup_cons_eq] at h
  split at h
  · rename_i heq
    exact .inl ⟨heq.symm, (Option.some.inj h).symm⟩
  · split at h
    · rename_i heq
      exact .inr ⟨heq.symm, (Option.some.inj h).symm⟩
    · cases h

theorem collections_not_columns {key name : String} (h : collections.lookup key = some name) :
    key ∉ incidentColumns ∧ key ∉ references := by
  rcases lookup_collections h with ⟨heq, _⟩ | ⟨heq, _⟩
  · rw [heq]
    decide
  · rw [heq]
    decide

/-- An entry assigns one column, or empties one collection, or does nothing. -/
theorem assign_cases {pending pending' : Pending} {key : String} {value : Value}
    (h : assign env table incident pending key value = some pending') :
    pending'.columns = (match toAssign incident key value with
      | some assigned => Dict.set key assigned pending.columns
      | none => pending.columns) ∧
    pending'.emptied = (match toEmpty table incident key value with
      | some name => name :: pending.emptied
      | none => pending.emptied) := by
  unfold assign at h
  unfold toAssign toEmpty
  rcases Classical.em (key ∈ incidentColumns) with hcolumn | hcolumn
  · have hnone : collections.lookup key = none := by
      cases hlookup : collections.lookup key with
      | none => rfl
      | some name => exact absurd hcolumn (collections_not_columns hlookup).1
    rw [if_pos hcolumn] at h
    rw [if_pos hcolumn, hnone]
    split at h
    · rename_i heq
      cases h
      rw [if_pos heq]
      exact ⟨rfl, rfl⟩
    · rename_i hne
      rw [if_neg hne]
      cases value with
      | _ =>
          cases h
          exact ⟨rfl, rfl⟩
  · rw [if_neg hcolumn] at h
    rw [if_neg hcolumn]
    rcases Classical.em (key ∈ references) with hreference | hreference
    · have hnone : collections.lookup key = none := by
        cases hlookup : collections.lookup key with
        | none => rfl
        | some name => exact absurd hreference (collections_not_columns hlookup).2
      rw [if_pos hreference] at h
      rw [hnone]
      cases value with
      | none =>
          cases h
          exact ⟨rfl, rfl⟩
      | _ => cases h
    · rw [if_neg hreference] at h
      cases hlookup : collections.lookup key with
      | none =>
          rw [hlookup] at h
          simp only at h
          split at h
          · cases h
          · cases h
            exact ⟨rfl, rfl⟩
      | some name =>
          rw [hlookup] at h
          cases value with
          | none =>
              cases h
              exact ⟨rfl, rfl⟩
          | list items =>
              cases items with
              | nil =>
                  simp only at h
                  split at h
                  · rename_i hempty
                    cases h
                    simp only [hempty, if_true, and_self]
                  · rename_i hchildren
                    cases h
                    simp only [hchildren]
                    exact ⟨trivial, rfl⟩
              | cons item items => cases h
          | _ => cases h

theorem assignAll_columns {pending result : Pending} {data : List (String × Value)}
    (hdata : Dict.Distinct data) (h : assignAll env table incident pending data = some result)
    (key : String) :
    result.columns.lookup key =
      ((data.lookup key).bind (toAssign incident key)).or (pending.columns.lookup key) := by
  induction data generalizing pending with
  | nil =>
      cases h
      rfl
  | cons entry rest ih =>
      rcases entry with ⟨k, value⟩
      rcases List.nodup_cons.mp hdata with ⟨hhead, hrest⟩
      unfold assignAll at h
      split at h
      · rename_i pending' hassign
        rw [ih hrest h, Dict.lookup_cons_eq, (assign_cases hassign).1]
        rcases Classical.em (k = key) with heq | hne
        · have habsent : rest.lookup key = none := by
            rw [← heq]
            exact Dict.lookup_eq_none.mpr hhead
          rw [if_pos heq, habsent, Option.bind_none, Option.none_or, Option.bind_some, ← heq]
          cases toAssign incident k value with
          | none => rfl
          | some assigned => exact Dict.lookup_set_self _ _ _
        · rw [if_neg hne]
          cases toAssign incident k value with
          | none => rfl
          | some assigned => rw [Dict.lookup_set_ne hne]
      · cases h

theorem assignAll_emptied {pending result : Pending} {data : List (String × Value)}
    (h : assignAll env table incident pending data = some result) (name : String) :
    name ∈ result.emptied <-> name ∈ pending.emptied ∨
      exists key value, (key, value) ∈ data ∧ toEmpty table incident key value = some name := by
  induction data generalizing pending with
  | nil =>
      cases h
      simp
  | cons entry rest ih =>
      rcases entry with ⟨k, v⟩
      unfold assignAll at h
      split at h
      · rename_i pending' hassign
        have hstep : name ∈ pending'.emptied <->
            name ∈ pending.emptied ∨ toEmpty table incident k v = some name := by
          rw [(assign_cases hassign).2]
          cases toEmpty table incident k v with
          | none => simp
          | some other => simp [or_comm, eq_comm]
        rw [ih h, hstep, or_assoc]
        refine or_congr_right ?_
        constructor
        · intro hor
          rcases hor with hhead | ⟨key, value, hmem, hempty⟩
          · exact ⟨k, v, List.mem_cons_self, hhead⟩
          · exact ⟨key, value, List.mem_cons_of_mem _ hmem, hempty⟩
        · intro hexists
          rcases hexists with ⟨key, value, hmem, hempty⟩
          rcases List.mem_cons.mp hmem with heq | hrest
          · cases heq
            exact .inl hempty
          · exact .inr ⟨key, value, hrest, hempty⟩
      · cases h

theorem columns_distinct {pending result : Pending} {data : List (String × Value)}
    (hpending : Dict.Distinct pending.columns)
    (h : assignAll env table incident pending data = some result) :
    Dict.Distinct result.columns := by
  induction data generalizing pending with
  | nil =>
      cases h
      exact hpending
  | cons entry rest ih =>
      unfold assignAll at h
      split at h
      · rename_i pending' hassign
        refine ih ?_ h
        rw [(assign_cases hassign).1]
        split
        · exact hpending.set _ _
        · exact hpending
      · cases h

/-- A column is written where it was assigned something else. -/
theorem flush_column {row result : Row} {columns : List (String × Value)}
    (hcolumns : Dict.Distinct columns) (h : flush env incident row columns = some result)
    (key : String) :
    match columns.lookup key with
    | none => column result key = column row key
    | some value =>
        if (column incident key).eq value then column result key = column row key
        else env.store key value = some (column result key) := by
  induction columns generalizing row with
  | nil =>
      cases h
      rfl
  | cons entry rest ih =>
      rcases entry with ⟨k, value⟩
      rcases List.nodup_cons.mp hcolumns with ⟨hhead, hrest⟩
      rw [Dict.lookup_cons_eq]
      have habsent : k = key -> rest.lookup key = none := by
        intro heq
        rw [← heq]
        exact Dict.lookup_eq_none.mpr hhead
      unfold flush at h
      split at h
      · rename_i hsame
        have htail := ih hrest h
        rcases Classical.em (k = key) with heq | hne
        · rw [habsent heq] at htail
          rw [if_pos heq]
          simp only
          rw [← heq, if_pos hsame, heq]
          exact htail
        · rw [if_neg hne]
          exact htail
      · rename_i hdiffers
        split at h
        · rename_i stored hstored
          have htail := ih hrest h
          rw [column_set] at htail
          rcases Classical.em (k = key) with heq | hne
          · rw [habsent heq, if_pos heq] at htail
            rw [if_pos heq]
            simp only at htail ⊢
            rw [htail, ← heq, if_neg hdiffers]
            exact hstored
          · rw [if_neg hne] at htail ⊢
            exact htail
        · cases h

end Loop

/-!
## Collections
-/

/-- A row refers back no longer where its collection was emptied. -/
theorem column_release (emptied : List String) (id : Value) (before after : Row) (key : String) :
    column (release emptied id before after) key =
      if key ∈ emptied ∧ (column before key).eq id = true then .none else column after key := by
  induction emptied generalizing after with
  | nil => exact (if_neg fun h => List.not_mem_nil h.1).symm
  | cons name rest ih =>
      have hfold : release (name :: rest) id before after = release rest id before
          (if (column before name).eq id then Dict.set name .none after else after) := rfl
      rw [hfold, ih]
      rcases Classical.em (key ∈ rest ∧ (column before key).eq id = true) with hrest | hrest
      · rw [if_pos hrest, if_pos ⟨List.mem_cons_of_mem _ hrest.1, hrest.2⟩]
      · rw [if_neg hrest]
        rcases Classical.em (name = key) with heq | hne
        · rw [heq]
          cases hmatch : (column before key).eq id with
          | true =>
              rw [if_pos rfl, column_set, if_pos rfl, if_pos ⟨List.mem_cons_self, rfl⟩]
          | false => simp
        · have hstep : column (if (column before name).eq id then Dict.set name .none after
              else after) key = column after key := by
            split
            · rw [column_set, if_neg hne]
            · rfl
          rw [hstep, if_neg]
          intro hboth
          rcases List.mem_cons.mp hboth.1 with heq | hmem
          · exact hne heq.symm
          · exact hrest ⟨hmem, hboth.2⟩

theorem release_self {emptied : List String} {id : Value} {before after : Row}
    (h : forall name, name ∈ emptied -> (column before name).eq id = false) :
    release emptied id before after = after := by
  induction emptied generalizing after with
  | nil => rfl
  | cons name rest ih =>
      have hfold : release (name :: rest) id before after = release rest id before
          (if (column before name).eq id then Dict.set name .none after else after) := rfl
      rw [hfold, h name List.mem_cons_self, if_neg Bool.false_ne_true]
      exact ih fun other hother => h other (List.mem_cons_of_mem _ hother)

/-!
## The call
-/

theorem dict_distinct (dto : IncidentDtoIn) : Dict.Distinct dto.dict := by
  unfold Dict.Distinct IncidentDtoIn.dict
  rw [List.map_append]
  refine List.nodup_append.mpr ⟨(by decide : declaredFields.Nodup), dto.distinct, ?_⟩
  intro a ha b hb heq
  rw [heq] at ha
  exact dto.undeclared b hb ha

theorem lookup_dict_undeclared (dto : IncidentDtoIn) {key : String} (h : key ∉ declaredFields) :
    dto.dict.lookup key = dto.extras.lookup key := by
  simp only [declaredFields, List.mem_cons, not_or, List.not_mem_nil, not_false_eq_true,
    and_true] at h
  rcases h with ⟨h1, h2, h3, h4, h5⟩
  unfold IncidentDtoIn.dict
  simp only [List.cons_append, List.nil_append]
  rw [Dict.lookup_cons_eq, if_neg (Ne.symm h1), Dict.lookup_cons_eq, if_neg (Ne.symm h2),
    Dict.lookup_cons_eq, if_neg (Ne.symm h3), Dict.lookup_cons_eq, if_neg (Ne.symm h4),
    Dict.lookup_cons_eq, if_neg (Ne.symm h5)]

theorem lookup_dict_severity (dto : IncidentDtoIn) :
    dto.dict.lookup "severity" = some (dto.severity.elim .none .severity) := rfl

section Call

variable {env : Environment} {table : Table} {tenantId : String} {id : Nat} {incident : Row}
  {dto : IncidentDtoIn} {generatedByAi : Bool} {after : List Row}

/-- The columns that are assigned after the loop. -/
def summaryColumns : List String :=
  ["same_incident_in_the_past_id", "generated_summary", "user_summary"]

/-- What a call that returns leaves of the row, and which columns of rows that refer to it it
clears. -/
structure Effect (env : Environment) (table : Table) (id : Nat) (incident : Row)
    (dto : IncidentDtoIn) (after : List Row) (emptied : List String) (row : Row) : Prop where
  rows : after = table.rows.map fun other =>
    if (column other "id").eq (.uuid id) then release emptied (.uuid id) incident row
    else release emptied (.uuid id) other other
  empties : forall name, name ∈ emptied <->
    exists key value, (key, value) ∈ dto.dict ∧ toEmpty table incident key value = some name
  assigns : forall key, key ∉ summaryColumns ->
    match (dto.dict.lookup key).bind (toAssign incident key) with
    | none => column row key = column incident key
    | some value =>
        if (column incident key).eq value then column row key = column incident key
        else env.store key value = some (column row key)

def IsFound (table : Table) (tenantId : String) (id : Nat) (incident : Row) : Prop :=
  table.rows.find? (fun row =>
    (column row "tenant_id").eq (.str tenantId) && (column row "id").eq (.uuid id)) =
      some incident

theorem exists_effect (hfound : IsFound table tenantId id incident)
    (h : updateIncidentFromDtoById env table tenantId id dto generatedByAi = some after) :
    exists emptied row, Effect env table id incident dto after emptied row := by
  unfold updateIncidentFromDtoById at h
  rw [hfound] at h
  rcases Option.bind_eq_some_iff.mp h with ⟨pending, hpending, h⟩
  rcases Option.bind_eq_some_iff.mp h with ⟨row, hrow, h⟩
  simp only at h
  split at h
  · cases h
    refine ⟨pending.emptied, row, rfl, ?_, ?_⟩
    · intro name
      rw [assignAll_emptied hpending name]
      simp
    · intro key hkey
      have hsummary : (if generatedByAi = true then "generated_summary" else "user_summary") ≠ key := by
        intro heq
        refine hkey ?_
        rw [← heq]
        split
        · decide
        · decide
      have hpast : "same_incident_in_the_past_id" ≠ key := by
        intro heq
        refine hkey ?_
        rw [← heq]
        decide
      have hdistinct := columns_distinct Dict.distinct_nil hpending
      have hflush := flush_column ((hdistinct.set _ _).set _ _) hrow key
      rw [Dict.lookup_set_ne hsummary, Dict.lookup_set_ne hpast,
        assignAll_columns (dict_distinct dto) hpending key, List.lookup_nil, Option.or_none]
        at hflush
      exact hflush
  · cases h

theorem IsFound.mem (hfound : IsFound table tenantId id incident) :
    incident ∈ table.rows ∧ column incident "id" = .uuid id := by
  have hsome := List.find?_some hfound
  rw [Bool.and_eq_true] at hsome
  exact ⟨List.mem_of_find?_eq_some hfound, Value.eq_uuid.mp hsome.2⟩

theorem IsFound.eq_of_id (hfound : IsFound table tenantId id incident) {other : Row}
    (hother : other ∈ table.rows) (hid : column other "id" = .uuid id) : other = incident := by
  rcases hfound.mem with ⟨hmem, hincident⟩
  exact List.inj_on_of_nodup_map table.primaryKey hother hmem (hid.trans hincident.symm)

theorem toEmpty_eq_some {key name : String} {value : Value} :
    toEmpty table incident key value = some name <->
      collections.lookup key = some name ∧ value = .list [] ∧
        exists other, other ∈ table.rows ∧
          (column other name).eq (column incident "id") = true := by
  unfold toEmpty
  cases hlookup : collections.lookup key with
  | none => simp
  | some found =>
      cases value with
      | list items =>
          cases items with
          | nil =>
              simp only
              have hchildren : (children table (column incident "id") found).isEmpty = true <->
                  ¬ exists other, other ∈ table.rows ∧
                    (column other found).eq (column incident "id") = true := by
                simp [children]
              split
              · rename_i hempty
                refine ⟨fun h => (by cases h), fun h => ?_⟩
                rw [Option.some.injEq] at h
                rw [h.1] at hchildren
                exact absurd h.2.2 (hchildren.mp (h.1 ▸ hempty))
              · rename_i hnonempty
                rw [Option.some.injEq]
                constructor
                · intro heq
                  refine ⟨heq, trivial, ?_⟩
                  rw [← heq]
                  exact not_not.mp (fun hnot => hnonempty (hchildren.mpr hnot))
                · exact fun h => h.1
          | cons item items => simp
      | _ => simp

/-- The collections that a body empties. -/
theorem Effect.emptied_iff {emptied : List String} {row : Row}
    (heffect : Effect env table id incident dto after emptied row)
    (hid : column incident "id" = .uuid id) (name : String) :
    name ∈ emptied <-> exists key, collections.lookup key = some name ∧
      (key, .list []) ∈ dto.extras ∧
        exists other, other ∈ table.rows ∧ column other name = .uuid id := by
  rw [heffect.empties]
  constructor
  · intro h
    rcases h with ⟨key, value, hmem, hempty⟩
    rcases toEmpty_eq_some.mp hempty with ⟨hkey, hvalue, other, hother, heq⟩
    rw [hid, Value.eq_uuid] at heq
    refine ⟨key, hkey, ?_, other, hother, heq⟩
    have hundeclared : key ∉ declaredFields := by
      intro hdeclared
      exact absurd (collections_not_columns hkey).1
        (fun hnot => hnot ((by decide : declaredFields ⊆ incidentColumns) hdeclared))
    have hlookup := (dict_distinct dto).lookup.mpr hmem
    rw [lookup_dict_undeclared dto hundeclared, hvalue] at hlookup
    exact dto.distinct.lookup.mp hlookup
  · intro h
    rcases h with ⟨key, hkey, hmem, other, hother, heq⟩
    refine ⟨key, .list [], List.mem_append_right _ hmem, ?_⟩
    refine toEmpty_eq_some.mpr ⟨hkey, rfl, other, hother, ?_⟩
    rw [hid]
    exact Value.eq_uuid.mpr heq

theorem Effect.emptied_cases {emptied : List String} {row : Row}
    (heffect : Effect env table id incident dto after emptied row)
    (hid : column incident "id" = .uuid id) {name : String} (h : name ∈ emptied) :
    (name = "same_incident_in_the_past_id" ∧
        ("same_incidents_in_the_future", .list []) ∈ dto.extras) ∨
      (name = "merged_into_incident_id" ∧ ("merged_incidents", .list []) ∈ dto.extras) := by
  rcases (heffect.emptied_iff hid name).mp h with ⟨key, hkey, hmem, _⟩
  rcases lookup_collections hkey with ⟨heq, hname⟩ | ⟨heq, hname⟩
  · exact .inl ⟨hname, heq ▸ hmem⟩
  · exact .inr ⟨hname, heq ▸ hmem⟩

/-- What an undeclared column of the row is after the call. -/
theorem Effect.undeclared {emptied : List String} {row : Row}
    (heffect : Effect env table id incident dto after emptied row) {key : String}
    (hkey : key ∈ incidentColumns) (hsummary : key ∉ summaryColumns)
    (hdeclared : key ∉ declaredFields) :
    column row key = column incident key ∨
      exists value, (key, value) ∈ dto.extras ∧ value ≠ .none ∧
        (column incident key).eq value = false ∧ env.store key value = some (column row key) := by
  have hassigns := heffect.assigns key hsummary
  rw [lookup_dict_undeclared dto hdeclared] at hassigns
  cases hlookup : dto.extras.lookup key with
  | none =>
      rw [hlookup] at hassigns
      exact .inl hassigns
  | some value =>
      have hmem := dto.distinct.lookup.mp hlookup
      rw [hlookup, Option.bind_some] at hassigns
      unfold toAssign at hassigns
      rw [if_pos hkey] at hassigns
      cases hsame : (column incident key).eq value with
      | true =>
          rw [hsame] at hassigns
          exact .inl hassigns
      | false =>
          rw [hsame, if_neg Bool.false_ne_true] at hassigns
          cases value with
          | none => exact .inl hassigns
          | severity s => exact absurd hmem (dto.noEnum key s)
          | _ =>
              simp only [Value.assigned, hsame, Bool.false_eq_true, if_false] at hassigns
              exact .inr ⟨_, hmem, by simp, hsame, hassigns⟩

theorem Effect.stored {emptied : List String} {row : Row}
    (heffect : Effect env table id incident dto after emptied row) {key : String}
    (hkey : key ∈ incidentColumns) (hsummary : key ∉ summaryColumns)
    (hdeclared : key ∉ declaredFields) {value : Value} (hmem : (key, value) ∈ dto.extras)
    (hvalue : value ≠ .none) (hdiffers : (column incident key).eq value = false) :
    env.store key value = some (column row key) := by
  have hassigns := heffect.assigns key hsummary
  have hassigned : toAssign incident key value = some value := by
    unfold toAssign
    rw [if_pos hkey, hdiffers, if_neg Bool.false_ne_true]
    cases value with
    | none => exact absurd rfl hvalue
    | severity s => exact absurd hmem (dto.noEnum key s)
    | _ => rfl
  rw [lookup_dict_undeclared dto hdeclared, dto.distinct.lookup.mpr hmem, Option.bind_some,
    hassigned] at hassigns
  simp only [hdiffers, Bool.false_eq_true, if_false] at hassigns
  exact hassigns

/-- A body that gives a severity leaves none in the row. -/
theorem Effect.severity_lost
    (hstore : forall (s s' : IncidentSeverity),
      env.store "severity" (.str (severityValue s)) ≠ some (.int s'.order))
    {emptied : List String} {row : Row}
    (heffect : Effect env table id incident dto after emptied row) {given : IncidentSeverity}
    (hgiven : dto.severity = some given) (s : IncidentSeverity) : ¬ HasSeverity row s := by
  intro hseverity
  have hassigns := heffect.assigns "severity" (by decide)
  have hlookup : dto.dict.lookup "severity" = some (.severity given) := by
    rw [lookup_dict_severity, hgiven]
    rfl
  have hassign : toAssign incident "severity" (.severity given) =
      if (column incident "severity").eq (.severity given) then none
      else some (.str (severityValue given)) :=
    if_pos (by decide)
  unfold HasSeverity at hseverity
  rw [hlookup, Option.bind_some, hassign, hseverity] at hassigns
  cases hsame : (column incident "severity").eq (.severity given) with
  | true =>
      rw [hsame] at hassigns
      have heq : (.int s.order : Value) = column incident "severity" := hassigns
      rw [← heq] at hsame
      cases hsame
  | false =>
      rw [hsame] at hassigns
      have hcases : if (column incident "severity").eq (.str (severityValue given)) then
          (.int s.order : Value) = column incident "severity"
        else env.store "severity" (.str (severityValue given)) = some (.int s.order) := hassigns
      split at hcases
      · rename_i htext
        rw [← hcases] at htext
        cases htext
      · exact hstore given s hcases

theorem Effect.severity_kept {emptied : List String} {row : Row}
    (heffect : Effect env table id incident dto after emptied row)
    (hgiven : dto.severity = none) : column row "severity" = column incident "severity" := by
  have hassigns := heffect.assigns "severity" (by decide)
  have hlookup : dto.dict.lookup "severity" = some .none := by
    rw [lookup_dict_severity, hgiven]
    rfl
  have hassign : toAssign incident "severity" .none = none := by
    have hif : toAssign incident "severity" .none =
        if (column incident "severity").eq .none then none else none :=
      if_pos (by decide)
    rw [hif, ite_self]
  rw [hlookup, Option.bind_some, hassign] at hassigns
  exact hassigns

/-- What a released row refers to. -/
theorem Effect.column_final {emptied : List String} {row : Row}
    (heffect : Effect env table id incident dto after emptied row)
    (hid : column incident "id" = .uuid id) {key : String}
    (hkey : key ≠ "same_incident_in_the_past_id") (hmerged : key ≠ "merged_into_incident_id") :
    column (release emptied (.uuid id) incident row) key = column row key := by
  rw [column_release, if_neg]
  intro h
  rcases heffect.emptied_cases hid h.1 with ⟨heq, _⟩ | ⟨heq, _⟩
  · exact hkey heq
  · exact hmerged heq

theorem Effect.onlyEditable
    (hstore : forall (s s' : IncidentSeverity),
      env.store "severity" (.str (severityValue s)) ≠ some (.int s'.order))
    (hfound : IsFound table tenantId id incident) {emptied : List String} {row : Row}
    (heffect : Effect env table id incident dto after emptied row)
    (hedits : EditsOnly table id incident dto after) :
    OnlyEditable env table id incident dto := by
  rcases hfound.mem with ⟨hmem, hid⟩
  rcases hedits with ⟨row', hrows, hframe, s, hseverity, hgiven⟩
  have himage : forall other, other ∈ table.rows ->
      (if (column other "id").eq (.uuid id) then release emptied (.uuid id) incident row
        else release emptied (.uuid id) other other) =
      if (column other "id").eq (.uuid id) then row' else other :=
    List.map_inj_left.mp (heffect.rows.symm.trans hrows)
  have hfinal : release emptied (.uuid id) incident row = row' := by
    have hself := himage incident hmem
    rw [if_pos (Value.eq_uuid.mpr hid), if_pos (Value.eq_uuid.mpr hid)] at hself
    exact hself
  have hother : forall other, other ∈ table.rows -> column other "id" ≠ .uuid id ->
      release emptied (.uuid id) other other = other := by
    intro other hmem hne
    have hself := himage other hmem
    rw [if_neg (fun h => hne (Value.eq_uuid.mp h)), if_neg (fun h => hne (Value.eq_uuid.mp h))]
      at hself
    exact hself
  have hnotOther : forall other name, other ∈ table.rows -> column other "id" ≠ .uuid id ->
      name ∈ emptied -> column other name ≠ .uuid id := by
    intro other name hmem hne hempty heq
    have hcleared := column_release emptied (.uuid id) other other name
    rw [if_pos ⟨hempty, Value.eq_uuid.mpr heq⟩, hother other hmem hne, heq] at hcleared
    cases hcleared
  have hnotOwn : "merged_into_incident_id" ∈ emptied ->
      column incident "merged_into_incident_id" ≠ .uuid id := by
    intro hempty heq
    have hcleared := column_release emptied (.uuid id) incident row "merged_into_incident_id"
    rw [if_pos ⟨hempty, Value.eq_uuid.mpr heq⟩, hfinal, hframe _ (by decide), heq] at hcleared
    cases hcleared
  have hcolumnFinal : forall key, key ∈ frameColumns -> column row key = column incident key := by
    intro key hkey
    rw [← hframe key hkey, ← hfinal, column_release, if_neg]
    intro hboth
    rcases heffect.emptied_cases hid hboth.1 with ⟨hname, _⟩ | ⟨hname, _⟩
    · rw [hname] at hkey
      exact absurd hkey (by decide)
    · rw [hname] at hboth
      exact hnotOwn hboth.1 (Value.eq_uuid.mp hboth.2)
  have hnone : dto.severity = none := by
    cases hdto : dto.severity with
    | none => rfl
    | some given =>
        have hcolumn := heffect.column_final hid (by decide : "severity" ≠ _) (by decide)
        rw [hfinal] at hcolumn
        unfold HasSeverity at hseverity
        rw [hcolumn] at hseverity
        exact absurd hseverity (heffect.severity_lost hstore hdto s)
  refine ⟨?_, ?_, ?_, hnone, s, ?_⟩
  · intro key value hkey hextra hvalue hdiffers
    have hcolumns : frameColumns ⊆ incidentColumns := by decide
    have hsummary : forall key, key ∈ frameColumns -> key ∉ summaryColumns := by decide
    have hdeclared : forall key, key ∈ frameColumns -> key ∉ declaredFields := by decide
    rw [← hcolumnFinal key hkey]
    exact heffect.stored (hcolumns hkey) (hsummary key hkey) (hdeclared key hkey) hextra hvalue
      hdiffers
  · intro hextra other hmem heq
    have hempty : "merged_into_incident_id" ∈ emptied :=
      (heffect.emptied_iff hid _).mpr ⟨"merged_incidents", rfl, hextra, other, hmem, heq⟩
    rcases Classical.em (column other "id" = .uuid id) with hsame | hne
    · rw [hfound.eq_of_id hmem hsame] at heq
      exact hnotOwn hempty heq
    · exact hnotOther other _ hmem hne hempty heq
  · intro hextra other hmem hne heq
    have hempty : "same_incident_in_the_past_id" ∈ emptied :=
      (heffect.emptied_iff hid _).mpr
        ⟨"same_incidents_in_the_future", rfl, hextra, other, hmem, heq⟩
    exact hnotOther other _ hmem hne hempty heq
  · rw [hnone] at hgiven
    exact hgiven

theorem Effect.editsOnly (hfound : IsFound table tenantId id incident) {emptied : List String}
    {row : Row} (heffect : Effect env table id incident dto after emptied row)
    (honly : OnlyEditable env table id incident dto) :
    EditsOnly table id incident dto after := by
  rcases hfound.mem with ⟨hmem, hid⟩
  rcases honly with ⟨hcolumns, hmerged, hfuture, hnone, s, hseverity⟩
  have hnotMerged : "merged_into_incident_id" ∉ emptied := by
    intro hempty
    rcases (heffect.emptied_iff hid _).mp hempty with ⟨key, hkey, hextra, other, hother, heq⟩
    rcases lookup_collections hkey with ⟨_, hname⟩ | ⟨hname, _⟩
    · exact absurd hname (by decide)
    · rw [hname] at hextra
      exact hmerged hextra other hother heq
  refine ⟨release emptied (.uuid id) incident row, ?_, ?_, s, ?_, ?_⟩
  · rw [heffect.rows]
    refine List.map_congr_left fun other hother => ?_
    rcases Classical.em (column other "id" = .uuid id) with hsame | hne
    · rw [if_pos (Value.eq_uuid.mpr hsame), if_pos (Value.eq_uuid.mpr hsame)]
    · rw [if_neg (fun h => hne (Value.eq_uuid.mp h)), if_neg (fun h => hne (Value.eq_uuid.mp h))]
      refine release_self fun name hempty => ?_
      rcases heffect.emptied_cases hid hempty with ⟨hname, hextra⟩ | ⟨hname, _⟩
      · rw [hname]
        refine eq_false_of_ne_true fun h => ?_
        exact hfuture hextra other hother hne (Value.eq_uuid.mp h)
      · rw [hname] at hempty
        exact absurd hempty hnotMerged
  · intro key hkey
    have hcolumn : column (release emptied (.uuid id) incident row) key = column row key := by
      rw [column_release, if_neg]
      intro hboth
      rcases heffect.emptied_cases hid hboth.1 with ⟨hname, _⟩ | ⟨hname, _⟩
      · rw [hname] at hkey
        exact absurd hkey (by decide)
      · rw [hname] at hboth
        exact hnotMerged hboth.1
    have hsubset : frameColumns ⊆ incidentColumns := by decide
    have hsummary : forall key, key ∈ frameColumns -> key ∉ summaryColumns := by decide
    have hdeclared : forall key, key ∈ frameColumns -> key ∉ declaredFields := by decide
    rw [hcolumn]
    rcases heffect.undeclared (hsubset hkey) (hsummary key hkey) (hdeclared key hkey) with
      hsame | ⟨value, hextra, hvalue, hdiffers, hstored⟩
    · exact hsame
    · rw [hcolumns key value hkey hextra hvalue hdiffers, Option.some.injEq] at hstored
      exact hstored.symm
  · unfold HasSeverity
    rw [heffect.column_final hid (by decide) (by decide), heffect.severity_kept hnone]
    exact hseverity
  · rw [hnone]
    exact hseverity

/-- A call that returns edits only what an editor may edit exactly for such bodies. -/
theorem editsOnly_iff
    (hstore : forall (s s' : IncidentSeverity),
      env.store "severity" (.str (severityValue s)) ≠ some (.int s'.order))
    (hfound : IsFound table tenantId id incident)
    (h : updateIncidentFromDtoById env table tenantId id dto generatedByAi = some after) :
    EditsOnly table id incident dto after <-> OnlyEditable env table id incident dto := by
  rcases exists_effect hfound h with ⟨emptied, row, heffect⟩
  constructor
  · exact heffect.onlyEditable hstore hfound
  · exact heffect.editsOnly hfound

end Call

/-- SQLite, which keeps texts in integer columns. -/
def sqlite : Environment where
  store _ value := some value
  accepts _ := true
  rejects _ _ := true

def outage : Row :=
  [("id", .uuid 1), ("tenant_id", .str "acme"), ("severity", .int 5), ("alerts_count", .int 3)]

def outages : Table where
  rows := [outage]
  primaryKey := List.nodup_singleton _

def emptyBody : IncidentDtoIn where
  userGeneratedName := none
  assignee := none
  userSummary := none
  sameIncidentInThePastId := none
  severity := none
  extras := []
  distinct := Dict.distinct_nil
  undeclared := fun _ h => absurd h List.not_mem_nil
  noEnum := fun _ _ h => absurd h List.not_mem_nil

theorem summary_editsOnly_iff :
    EditsOnly outages 1 outage { emptyBody with userSummary := some "The disk is full" }
        [outage ++ [("user_summary", .str "The disk is full")]] <->
      OnlyEditable sqlite outages 1 outage
        { emptyBody with userSummary := some "The disk is full" } :=
  @editsOnly_iff sqlite outages "acme" 1 outage _ false _ (by simp [sqlite]) rfl rfl

def countBody : IncidentDtoIn :=
  { emptyBody with
    extras := [("alerts_count", .int 999)]
    distinct := List.nodup_singleton _
    undeclared := by simp [declaredFields]
    noEnum := by simp }

/-- An extra field overwrites the count of the alerts, and a severity is stored as its name. -/
theorem extra_and_severity_not_editsOnly :
    (exists after, updateIncidentFromDtoById sqlite outages "acme" 1 countBody false = some after ∧
        ¬ EditsOnly outages 1 outage countBody after) ∧
      exists after, updateIncidentFromDtoById sqlite outages "acme" 1
          { emptyBody with severity := some .low } false = some after ∧
        ¬ EditsOnly outages 1 outage { emptyBody with severity := some .low } after := by
  have hsingle : forall {row row' : Row}, [row'] = outages.rows.map (fun other =>
      if (column other "id").eq (.uuid 1) then row else other) -> row = row' :=
    fun h => (List.cons.inj h).1.symm
  constructor
  · refine ⟨[Dict.set "alerts_count" (.int 999) outage], rfl, ?_⟩
    intro hedits
    rcases hedits with ⟨row, hrows, hframe, _⟩
    have hkept : Value.int 999 = .int 3 := by
      have hcolumn := hframe "alerts_count" (by decide)
      rw [hsingle hrows] at hcolumn
      exact hcolumn
    cases hkept
  · refine ⟨[Dict.set "severity" (.str "low") outage], rfl, ?_⟩
    intro hedits
    rcases hedits with ⟨row, hrows, _, s, hseverity, _⟩
    rw [hsingle hrows] at hseverity
    have hname : Value.str "low" = .int s.order := hseverity
    cases hname

end Edit
end Incidents
end KeepGateway
