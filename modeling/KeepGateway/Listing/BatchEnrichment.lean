import KeepGateway.Lib.FirstMatch
import KeepGateway.Listing.AlertIsolation
import KeepGateway.Listing.Paging
import KeepGateway.Listing.Totals

/-!
# Enriching the alerts of a filter

`batch_enrich_alerts` with a CEL filter: the alerts that `query_last_alerts` returns for a query
with the defaults of `QueryDto`, and one call of the enrichment for each of them.
-/

namespace KeepGateway
namespace Listing
namespace BatchEnrichment

open Cel (Celpy CelToSqlResult Failure Provider)
open Paging (QueryDto SortOptionsDto PageFailure)

variable {C V : Type}

/-- The tables, with their primary keys; a last alert is the latest one of its fingerprint. -/
structure AlertTables (C : Type) where
  db : Database C
  /-- the `fingerprint` column of an alert -/
  fingerprint : Alert C -> String
  alertIds : (db.alerts.map Alert.id).Nodup
  lastAlertKeys : (db.lastAlerts.map fun lastAlert =>
    (lastAlert.tenantId, lastAlert.fingerprint)).Nodup
  fingerprint_eq : forall lastAlert, lastAlert ∈ db.lastAlerts -> forall alert, alert ∈ db.alerts ->
    alert.id = lastAlert.alertId -> alert.tenantId = lastAlert.tenantId ->
      fingerprint alert = lastAlert.fingerprint

/-- How filters become SQL, and what the database makes of it; the expression for the timestamp is
a column of the alert. -/
structure Backend (C V : Type) where
  provider : Provider
  celpy : Celpy
  evaluation : Evaluation (AlertRow C) V
  fieldExpression : Option String -> String
  orderBy : List SortOptionsDto -> List (AlertRow C) -> List (AlertRow C)
  orderBy_perm : forall options rows, (orderBy options rows).Perm rows
  timestamp_eq : forall a b : AlertRow C, a.lastAlert = b.lastAlert -> a.alert = b.alert ->
    evaluation.value (fieldExpression (some "timestamp")) a =
      evaluation.value (fieldExpression (some "timestamp")) b

inductive QueryFailure where
  | page (e : PageFailure)
  | conversion (e : Failure)

/-- What enriching one alert raises: a `ValueError` for an unknown key, or anything else. -/
inductive EnrichFailure where
  | valueError
  | other
  deriving DecidableEq, Repr

inductive BatchAnswer where
  | httpError (status : Nat)
  | failed
  | ok
  deriving DecidableEq, Repr

structure BatchEnrichAlertRequestBody where
  fingerprints : Option (List String)
  cel : Option String
  deriving DecidableEq, Repr

/-- `QueryDto(cel=cel)` -/
def queryOf (cel : String) : QueryDto := ⟨some cel, some 1000, some 0, none, none, none⟩

/-- The loop of `batch_enrich`: the fingerprints that the enrichment was called for, and how it
ended. -/
def batchEnrich (enrich : String -> Except EnrichFailure Unit) :
    List String -> List String × Except EnrichFailure Unit
  | [] => ([], .ok ())
  | fingerprint :: rest =>
      match enrich fingerprint with
      | .error e => ([fingerprint], .error e)
      | .ok () =>
          let after := batchEnrich enrich rest
          (fingerprint :: after.1, after.2)

section

variable [DecidableEq C] [DecidableEq V] (tables : AlertTables C) (backend : Backend C V)
  (hardLimit : Nat) (tenantId : String)

/-- `query_last_alerts` -/
def queryLastAlerts (query : QueryDto) : Except QueryFailure (List (AlertRow C)) :=
  match query.sent hardLimit with
  | .error e => .error (.page e)
  | .ok sent =>
      let options := sent.sortOptions.getD []
      match buildAlertsQuery tables.db backend.provider backend.celpy backend.evaluation hardLimit
          ⟨tenantId, sent.cel, options.map fun option =>
            backend.fieldExpression option.sortBy⟩ with
      | .error e => .error (.conversion e)
      | .ok rows =>
          match Paging.skip backend.provider.dialect sent.offset (backend.orderBy options rows) >>=
              Paging.takeLimit backend.provider.dialect sent.limit with
          | .error e => .error (.page e)
          | .ok rows => .ok rows

/-- What follows once the fingerprints are known; `afterwards` is what comes after the
enrichment. -/
def enrichAll (enrich : String -> Except EnrichFailure Unit)
    (afterwards : List String -> Except EnrichFailure Unit) (fingerprints : List String) :
    List String × BatchAnswer :=
  let enriched := batchEnrich enrich fingerprints
  (enriched.1,
    match enriched.2 with
    | .error .valueError => .httpError 422
    | .error .other => .failed
    | .ok () =>
        match afterwards fingerprints with
        | .error _ => .failed
        | .ok () => .ok)

/-- `batch_enrich_alerts`: the fingerprints that the enrichment was called for, and the answer. -/
def batchEnrichAlerts (enrich : String -> Except EnrichFailure Unit)
    (afterwards : List String -> Except EnrichFailure Unit)
    (request : BatchEnrichAlertRequestBody) : List String × BatchAnswer :=
  let fingerprints := request.fingerprints.getD []
  let cel := request.cel.getD ""
  if fingerprints = [] ∧ cel = "" then ([], .httpError 400)
  else if fingerprints ≠ [] ∧ cel ≠ "" then ([], .httpError 400)
  else if cel ≠ "" then
    match queryLastAlerts tables backend hardLimit tenantId (queryOf cel) with
    | .error (.conversion (.rejected _)) => ([], .httpError 400)
    | .error _ => ([], .failed)
    | .ok [] => ([], .ok)
    | .ok (row :: rows) =>
        enrichAll enrich afterwards
          ((row :: rows).map fun row => tables.fingerprint row.alert)
  else enrichAll enrich afterwards fingerprints

/-!
## The alerts that a filter selects
-/

/-- The rows of the tenant that the filter holds of, whatever their age and number. -/
def selectedRows (result : CelToSqlResult) : List (AlertRow C) :=
  (fromLastAlert tables.db (involves "incident." result.involvedFields)).filter fun row =>
    row.lastAlert.tenantId == tenantId && backend.evaluation.admits result.sql row

def selectedFingerprints (result : CelToSqlResult) : List String :=
  (selectedRows tables backend tenantId result).map fun row => tables.fingerprint row.alert

/-- The answer is ok only after one call for each selected fingerprint, and for no other. -/
def ReachesSelected (cel : String) : Prop :=
  forall enrich afterwards,
    (batchEnrichAlerts tables backend hardLimit tenantId enrich afterwards
        ⟨none, some cel⟩).2 = .ok ->
      forall result, convert backend.provider backend.celpy (some cel) = .ok result ->
        forall fingerprint,
          (batchEnrichAlerts tables backend hardLimit tenantId enrich afterwards
              ⟨none, some cel⟩).1.count fingerprint =
            if fingerprint ∈ selectedFingerprints tables backend tenantId result then 1 else 0

/-- No more alerts are selected than the query returns, and none is past the hard limit. -/
structure WithinLimits (result : CelToSqlResult) : Prop where
  few : (selectedFingerprints tables backend tenantId result).dedup.length ≤ min 1000 hardLimit
  recent : forall row, row ∈ selectedRows tables backend tenantId result ->
    (threshold tables.db hardLimit tenantId).all (fun t => t <= row.lastAlert.timestamp) = true

end

/-!
## One alert, one fingerprint
-/

section

variable {tables : AlertTables C}

theorem alert_of_mem_fromLastAlert {fetchIncidents : Bool} {row : AlertRow C}
    (h : row ∈ fromLastAlert tables.db fetchIncidents) :
    row.lastAlert ∈ tables.db.lastAlerts ∧ row.alert ∈ tables.db.alerts ∧
      row.alert.id = row.lastAlert.alertId ∧ row.alert.tenantId = row.lastAlert.tenantId := by
  have hjoined : forall joined, joined ∈ joinAlerts tables.db ->
      joined.lastAlert ∈ tables.db.lastAlerts ∧ joined.alert ∈ tables.db.alerts ∧
        joined.alert.id = joined.lastAlert.alertId ∧
        joined.alert.tenantId = joined.lastAlert.tenantId := by
    intro joined hmem
    rcases mem_joinAlerts hmem with ⟨hlast, halert, hid⟩
    rcases mem_joinAlerts_bare hmem with ⟨_, _, htenant⟩
    exact ⟨hlast, halert, hid, htenant⟩
  unfold fromLastAlert at h
  split at h
  · rcases mem_joinIncidents h with ⟨linked, hlinked, hlast, halert⟩
    rcases mem_joinLinks hlinked with ⟨joined, hmem, hlast', halert'⟩
    rw [hlast, halert, hlast', halert']
    exact hjoined joined hmem
  · exact hjoined row h

theorem fingerprint_of_mem {fetchIncidents : Bool} {row : AlertRow C}
    (h : row ∈ fromLastAlert tables.db fetchIncidents) :
    tables.fingerprint row.alert = row.lastAlert.fingerprint := by
  rcases alert_of_mem_fromLastAlert h with ⟨hlast, halert, hid, htenant⟩
  exact tables.fingerprint_eq _ hlast _ halert hid htenant

theorem mem_selectedRows {backend : Backend C V} {tenantId : String} {result : CelToSqlResult}
    {row : AlertRow C} :
    row ∈ selectedRows tables backend tenantId result <->
      row ∈ fromLastAlert tables.db (involves "incident." result.involvedFields) ∧
        row.lastAlert.tenantId = tenantId ∧ backend.evaluation.admits result.sql row = true := by
  unfold selectedRows
  rw [List.mem_filter, Bool.and_eq_true, beq_iff_eq]

/-- The rows of a tenant with one fingerprint show one alert. -/
theorem alert_of_fingerprint {fetchIncidents : Bool} {a b : AlertRow C}
    (ha : a ∈ fromLastAlert tables.db fetchIncidents)
    (hb : b ∈ fromLastAlert tables.db fetchIncidents)
    (htenant : a.lastAlert.tenantId = b.lastAlert.tenantId)
    (hfingerprint : tables.fingerprint a.alert = tables.fingerprint b.alert) :
    a.lastAlert = b.lastAlert ∧ a.alert = b.alert := by
  rcases alert_of_mem_fromLastAlert ha with ⟨halast, haalert, haid, _⟩
  rcases alert_of_mem_fromLastAlert hb with ⟨hblast, hbalert, hbid, _⟩
  rw [fingerprint_of_mem ha, fingerprint_of_mem hb] at hfingerprint
  have hlast : a.lastAlert = b.lastAlert :=
    List.inj_on_of_nodup_map tables.lastAlertKeys halast hblast (Prod.ext htenant hfingerprint)
  refine ⟨hlast, List.inj_on_of_nodup_map tables.alertIds haalert hbalert ?_⟩
  rw [haid, hbid, hlast]

/-- The rows with one alert have one fingerprint. -/
theorem fingerprint_of_alert {fetchIncidents : Bool} {a b : AlertRow C}
    (ha : a ∈ fromLastAlert tables.db fetchIncidents)
    (hb : b ∈ fromLastAlert tables.db fetchIncidents) (hid : a.alert.id = b.alert.id) :
    tables.fingerprint a.alert = tables.fingerprint b.alert := by
  rw [List.inj_on_of_nodup_map tables.alertIds (alert_of_mem_fromLastAlert ha).2.1
    (alert_of_mem_fromLastAlert hb).2.1 hid]

/-- Without incidents, the rows of a tenant have different fingerprints. -/
theorem nodup_fingerprints (p : AlertRow C -> Bool) (tenantId : String)
    (hp : forall row, p row = true -> row.lastAlert.tenantId = tenantId) :
    (((fromLastAlert tables.db false).filter p).map fun row =>
      tables.fingerprint row.alert).Nodup := by
  have honce : forall lastAlert, lastAlert ∈ tables.db.lastAlerts ->
      (tables.db.alerts.filter fun alert =>
        alert.id == lastAlert.alertId && alert.tenantId == lastAlert.tenantId).length ≤ 1 := by
    intro lastAlert _
    rw [FirstMatch.filter_of_key tables.alertIds fun alert _ h =>
      beq_iff_eq.mp (Bool.and_eq_true_iff.mp h).1]
    cases tables.db.alerts.find? _ with
    | none => exact Nat.zero_le 1
    | some alert => exact Nat.le_refl 1
  have hkeys := Rows.nodup_map_join tables.lastAlertKeys honce
  have hrows : ((fromLastAlert tables.db false).map fun row =>
      (row.lastAlert.tenantId, row.lastAlert.fingerprint)).Nodup := by
    show ((joinAlerts tables.db).map _).Nodup
    unfold joinAlerts
    rw [List.map_map]
    exact hkeys
  have hfiltered := hrows.sublist ((List.filter_sublist (p := p)).map _)
  refine List.Nodup.map_on ?_ hfiltered.of_map
  intro a ha b hb heq
  rcases List.mem_filter.mp ha with ⟨harow, hpa⟩
  rcases List.mem_filter.mp hb with ⟨hbrow, hpb⟩
  rw [fingerprint_of_mem harow, fingerprint_of_mem hbrow] at heq
  exact List.inj_on_of_nodup_map hfiltered ha hb (Prod.ext ((hp a hpa).trans (hp b hpb).symm) heq)

end

/-!
## The page of the query
-/

section

variable [DecidableEq C] [DecidableEq V] (tables : AlertTables C) (backend : Backend C V)
  (hardLimit : Nat) (tenantId cel : String)

/-- The query as it is sent. -/
def sentQuery : AlertQuery :=
  ⟨tenantId, some cel, [backend.fieldExpression (some "timestamp")]⟩

/-- The rows that the query keeps, before it is ordered and limited. -/
def keptRows (result : CelToSqlResult) : List (AlertRow C) :=
  Rows.kept (alertListKey backend.provider backend.evaluation (sentQuery backend tenantId cel)
      (involves "incident." result.involvedFields))
    ((selectedRows tables backend tenantId result).filter fun row =>
      (threshold tables.db hardLimit tenantId).all fun t => t <= row.lastAlert.timestamp)

def pageOf (result : CelToSqlResult) : List (AlertRow C) :=
  (backend.orderBy [⟨some "timestamp", some "desc"⟩]
    (keptRows tables backend hardLimit tenantId cel result)).take (min 1000 hardLimit)

variable {tables backend hardLimit tenantId cel} {result : CelToSqlResult}

theorem buildAlertsQuery_sent
    (hconvert : convert backend.provider backend.celpy (some cel) = .ok result) :
    buildAlertsQuery tables.db backend.provider backend.celpy backend.evaluation hardLimit
        (sentQuery backend tenantId cel) =
      .ok (keptRows tables backend hardLimit tenantId cel result) := by
  have hkeeps : forall row : AlertRow C,
      (sentQuery backend tenantId cel).keeps backend.evaluation result.sql
          (threshold tables.db hardLimit (sentQuery backend tenantId cel).tenantId) row =
        ((threshold tables.db hardLimit tenantId).all (fun t => t <= row.lastAlert.timestamp) &&
          (row.lastAlert.tenantId == tenantId && backend.evaluation.admits result.sql row)) := by
    intro row
    show (_ == _ && _ && _) = _
    rw [Bool.and_assoc, Bool.and_left_comm]
    rfl
  unfold buildAlertsQuery keptRows selectedRows
  rw [buildQueryForFiltering_of hconvert, List.filter_filter,
    List.filter_congr fun row _ => hkeeps row]
  rfl

/-- The default of 1000 alerts, or the hard limit where that is less. -/
theorem sent_queryOf :
    (queryOf cel).sent hardLimit = .ok { queryOf cel with
      limit := some ((min 1000 hardLimit : Nat) : Int)
      sortOptions := some [⟨some "timestamp", some "desc"⟩] } := by
  have hoptions : (queryOf cel).withSortOptions =
      { queryOf cel with sortOptions := some [⟨some "timestamp", some "desc"⟩] } := rfl
  unfold QueryDto.sent
  rw [hoptions]
  unfold QueryDto.clamp queryOf
  dsimp only
  split
  · rename_i hless
    rw [Nat.min_eq_right (by omega), Int.sub_zero]
  · rename_i hless
    rw [Nat.min_eq_left (by omega)]
    rfl

theorem queryLastAlerts_eq
    (hconvert : convert backend.provider backend.celpy (some cel) = .ok result) :
    queryLastAlerts tables backend hardLimit tenantId (queryOf cel) =
      .ok (pageOf tables backend hardLimit tenantId cel result) := by
  unfold queryLastAlerts
  rw [sent_queryOf]
  show (match buildAlertsQuery tables.db backend.provider backend.celpy backend.evaluation
    hardLimit (sentQuery backend tenantId cel) with | .error e => _ | .ok rows => _) = _
  rw [buildAlertsQuery_sent hconvert]
  rfl

theorem mem_keptRows_fingerprints {fingerprint : String} :
    fingerprint ∈ (keptRows tables backend hardLimit tenantId cel result).map
        (fun row => tables.fingerprint row.alert) <->
      exists row, row ∈ selectedRows tables backend tenantId result ∧
        (threshold tables.db hardLimit tenantId).all
          (fun t => t <= row.lastAlert.timestamp) = true ∧
        tables.fingerprint row.alert = fingerprint := by
  unfold keptRows
  rw [Rows.mem_map_kept]
  · rw [List.mem_map]
    constructor
    · rintro ⟨row, hrow, heq⟩
      rcases List.mem_filter.mp hrow with ⟨hselected, hrecent⟩
      exact ⟨row, hselected, hrecent, heq⟩
    · rintro ⟨row, hselected, hrecent, heq⟩
      exact ⟨row, List.mem_filter.mpr ⟨hselected, hrecent⟩, heq⟩
  · intro key hkey a ha b hb heq
    unfold alertListKey at hkey
    split at hkey
    · rw [← Option.some.inj hkey] at heq
      have hid : a.alert.id = b.alert.id := congrArg (fun k => k.2.1) heq
      have hamem := (mem_selectedRows.mp (List.mem_filter.mp ha).1).1
      have hbmem := (mem_selectedRows.mp (List.mem_filter.mp hb).1).1
      exact fingerprint_of_alert hamem hbmem hid
    · cases hkey

theorem nodup_keptRows_fingerprints :
    ((keptRows tables backend hardLimit tenantId cel result).map
      fun row => tables.fingerprint row.alert).Nodup := by
  apply Rows.nodup_map_kept
  · intro key hkey a ha b hb heq
    rcases mem_selectedRows.mp (List.mem_filter.mp ha).1 with ⟨hamem, hatenant, _⟩
    rcases mem_selectedRows.mp (List.mem_filter.mp hb).1 with ⟨hbmem, hbtenant, _⟩
    rcases alert_of_fingerprint hamem hbmem (hatenant.trans hbtenant.symm) heq with ⟨hlast, halert⟩
    unfold alertListKey at hkey
    split at hkey
    · rw [← Option.some.inj hkey]
      show ([backend.evaluation.value (backend.fieldExpression (some "timestamp")) a], _, _) =
        ([backend.evaluation.value (backend.fieldExpression (some "timestamp")) b], _, _)
      rw [backend.timestamp_eq a b hlast halert, hlast, halert]
    · cases hkey
  · intro hkey
    have hinvolves : involves "incident." result.involvedFields = false := by
      unfold alertListKey at hkey
      split at hkey
      · cases hkey
      · rename_i hinvolves
        exact Bool.eq_false_of_not_eq_true hinvolves
    unfold selectedRows
    rw [hinvolves, List.filter_filter]
    apply nodup_fingerprints _ tenantId
    intro row hkeeps
    have hscope := (Bool.and_eq_true_iff.mp hkeeps).2
    exact beq_iff_eq.mp (Bool.and_eq_true_iff.mp hscope).1

/-!
## Every selected alert
-/

theorem batchEnrich_of_ok {enrich : String -> Except EnrichFailure Unit}
    {fingerprints : List String} (h : (batchEnrich enrich fingerprints).2 = .ok ()) :
    (batchEnrich enrich fingerprints).1 = fingerprints := by
  induction fingerprints with
  | nil => rfl
  | cons fingerprint rest ih =>
      rw [batchEnrich] at h ⊢
      cases henrich : enrich fingerprint with
      | error e =>
          rw [henrich] at h
          cases h
      | ok _ =>
          rw [henrich] at h
          exact congrArg (List.cons fingerprint) (ih h)

theorem batchEnrich_always (fingerprints : List String) :
    (batchEnrich (fun _ => .ok ()) fingerprints).2 = .ok () := by
  induction fingerprints with
  | nil => rfl
  | cons fingerprint rest ih => exact ih

theorem enrichAll_of_ok {enrich : String -> Except EnrichFailure Unit}
    {afterwards : List String -> Except EnrichFailure Unit} {fingerprints : List String}
    (h : (enrichAll enrich afterwards fingerprints).2 = .ok) :
    (enrichAll enrich afterwards fingerprints).1 = fingerprints := by
  apply batchEnrich_of_ok
  cases henriched : (batchEnrich enrich fingerprints).2 with
  | error e =>
      simp only [enrichAll, henriched] at h
      cases e <;> cases h
  | ok _ => rfl

/-- Nothing is called where no alert is found. -/
theorem batchEnrichAlerts_cel (hcel : cel ≠ "")
    (hconvert : convert backend.provider backend.celpy (some cel) = .ok result)
    (enrich : String -> Except EnrichFailure Unit)
    (afterwards : List String -> Except EnrichFailure Unit) :
    batchEnrichAlerts tables backend hardLimit tenantId enrich afterwards ⟨none, some cel⟩ =
      if pageOf tables backend hardLimit tenantId cel result = [] then ([], .ok)
      else enrichAll enrich afterwards
        ((pageOf tables backend hardLimit tenantId cel result).map
          fun row => tables.fingerprint row.alert) := by
  unfold batchEnrichAlerts
  dsimp only [Option.getD_none, Option.getD_some]
  rw [if_neg fun h => hcel h.2, if_neg fun h => h.1 rfl, if_pos hcel, queryLastAlerts_eq hconvert]
  cases pageOf tables backend hardLimit tenantId cel result with
  | nil => rfl
  | cons row rows => rfl

/-- An answer of ok comes after one call for each alert of the page. -/
theorem calls_of_ok (hcel : cel ≠ "")
    (hconvert : convert backend.provider backend.celpy (some cel) = .ok result)
    {enrich : String -> Except EnrichFailure Unit}
    {afterwards : List String -> Except EnrichFailure Unit}
    (h : (batchEnrichAlerts tables backend hardLimit tenantId enrich afterwards
      ⟨none, some cel⟩).2 = .ok) :
    (batchEnrichAlerts tables backend hardLimit tenantId enrich afterwards ⟨none, some cel⟩).1 =
      (pageOf tables backend hardLimit tenantId cel result).map
        fun row => tables.fingerprint row.alert := by
  rw [batchEnrichAlerts_cel hcel hconvert] at h ⊢
  split at h
  · rename_i hnil
    rw [if_pos hnil, hnil]
    rfl
  · rename_i hne
    rw [if_neg hne]
    exact enrichAll_of_ok h

theorem answer_of_always (hcel : cel ≠ "")
    (hconvert : convert backend.provider backend.celpy (some cel) = .ok result) :
    (batchEnrichAlerts tables backend hardLimit tenantId (fun _ => .ok ()) (fun _ => .ok ())
      ⟨none, some cel⟩).2 = .ok := by
  rw [batchEnrichAlerts_cel hcel hconvert]
  split
  · rfl
  · simp only [enrichAll, batchEnrich_always]

/-- The page of a filter has what the filter selects exactly within the limits of the query. -/
theorem count_page_iff :
    (forall fingerprint, ((pageOf tables backend hardLimit tenantId cel result).map
        fun row => tables.fingerprint row.alert).count fingerprint =
      if fingerprint ∈ selectedFingerprints tables backend tenantId result then 1 else 0) <->
      WithinLimits tables backend hardLimit tenantId result := by
  have hperm := (backend.orderBy_perm [⟨some "timestamp", some "desc"⟩]
    (keptRows tables backend hardLimit tenantId cel result)).map
      fun row => tables.fingerprint row.alert
  have hnodup := hperm.nodup_iff.mpr nodup_keptRows_fingerprints
  have hpage : ((pageOf tables backend hardLimit tenantId cel result).map
      fun row => tables.fingerprint row.alert) =
    ((backend.orderBy [⟨some "timestamp", some "desc"⟩]
      (keptRows tables backend hardLimit tenantId cel result)).map
        fun row => tables.fingerprint row.alert).take (min 1000 hardLimit) := List.map_take
  have hmem : forall fingerprint, fingerprint ∈ (backend.orderBy [⟨some "timestamp", some "desc"⟩]
        (keptRows tables backend hardLimit tenantId cel result)).map
          (fun row => tables.fingerprint row.alert) <->
      exists row, row ∈ selectedRows tables backend tenantId result ∧
        (threshold tables.db hardLimit tenantId).all
          (fun t => t <= row.lastAlert.timestamp) = true ∧
        tables.fingerprint row.alert = fingerprint := fun fingerprint =>
    hperm.mem_iff.trans mem_keptRows_fingerprints
  rw [hpage, Rows.count_take_iff hnodup]
  · constructor
    · rintro ⟨hfew, hall⟩
      refine ⟨hfew, ?_⟩
      intro row hrow
      rcases (hmem _).mp (hall _ (List.mem_map_of_mem hrow)) with ⟨other, hother, hrecent, heq⟩
      rcases mem_selectedRows.mp hrow with ⟨hrowMem, hrowTenant, _⟩
      rcases mem_selectedRows.mp hother with ⟨hotherMem, hotherTenant, _⟩
      rw [← (alert_of_fingerprint hotherMem hrowMem (hotherTenant.trans hrowTenant.symm) heq).1]
      exact hrecent
    · rintro ⟨hfew, hrecent⟩
      refine ⟨hfew, ?_⟩
      intro fingerprint hfingerprint
      rcases List.mem_map.mp hfingerprint with ⟨row, hrow, heq⟩
      exact (hmem fingerprint).mpr ⟨row, hrow, hrecent row hrow, heq⟩
  · intro fingerprint hfingerprint
    rcases (hmem fingerprint).mp hfingerprint with ⟨row, hrow, _, heq⟩
    rw [← heq]
    exact List.mem_map_of_mem hrow

theorem withinLimits_of_reachesSelected
    (h : ReachesSelected tables backend hardLimit tenantId cel) (hcel : cel ≠ "")
    (hconvert : convert backend.provider backend.celpy (some cel) = .ok result) :
    WithinLimits tables backend hardLimit tenantId result := by
  have hanswer :=
    @answer_of_always C V _ _ tables backend hardLimit tenantId cel result hcel hconvert
  have hcount := h _ _ hanswer result hconvert
  rw [calls_of_ok hcel hconvert hanswer] at hcount
  exact count_page_iff.mp hcount

/-- A filter reaches all that it selects exactly within the limits of the query. -/
theorem reachesSelected_iff (tables : AlertTables C) (backend : Backend C V) (hardLimit : Nat)
    (tenantId cel : String) :
    ReachesSelected tables backend hardLimit tenantId cel <->
      (cel ≠ "" -> forall result,
        convert backend.provider backend.celpy (some cel) = .ok result ->
          WithinLimits tables backend hardLimit tenantId result) := by
  constructor
  · intro h hcel result hconvert
    exact withinLimits_of_reachesSelected h hcel hconvert
  · intro h enrich afterwards hanswer result hconvert
    have hcel : cel ≠ "" := by
      intro hempty
      subst hempty
      cases hanswer
    rw [calls_of_ok hcel hconvert hanswer]
    exact count_page_iff.mpr (h hcel result hconvert)

end

/-!
## More than a thousand alerts
-/

namespace BatchSample

open Cel (Tree)

/-- `name == 'x'` -/
def tree : Tree .expr :=
  .ofRelation (.relation .eq (.relationOne (TotalsSample.unary (.memberPrimary (.ident "name"))))
    (TotalsSample.unary (.memberPrimary (.literal "'x'"))))

/-- Every alert has the name, and the database orders the rows as they are. -/
def backend : Backend Unit Unit where
  provider := ⟨Cel.asciiRuntime, .postgresql, id,
    .ofConfigurations [⟨"name", ["alert.name"], some .string, []⟩]⟩
  celpy := ⟨fun _ => .ok tree, fun _ => ""⟩
  evaluation := ⟨fun _ _ => true, fun _ _ => ()⟩
  fieldExpression _ := "alert.timestamp"
  orderBy _ rows := rows
  orderBy_perm _ rows := List.Perm.refl rows
  timestamp_eq _ _ _ _ := rfl

def fingerprintOf (i : Nat) : String := String.ofList (List.replicate i 'f')

theorem fingerprintOf_injective : Function.Injective fingerprintOf := by
  intro i j h
  have hlength := congrArg List.length (String.ofList_injective h)
  rw [List.length_replicate, List.length_replicate] at hlength
  exact hlength

def alertOf (i : Nat) : Alert Unit := ⟨i, "t", i, ()⟩

def lastAlertOf (i : Nat) : LastAlert Unit := ⟨"t", fingerprintOf i, i, i, ()⟩

def tablesOf (n : Nat) : AlertTables Unit where
  db := ⟨(List.range n).map alertOf, (List.range n).map lastAlertOf, [], [], []⟩
  fingerprint alert := fingerprintOf alert.id
  alertIds := by
    rw [List.map_map]
    exact List.nodup_range.map fun i j h => h
  lastAlertKeys := by
    rw [List.map_map]
    exact List.nodup_range.map fun i j h => fingerprintOf_injective (Prod.ext_iff.mp h).2
  fingerprint_eq := by
    intro lastAlert hlast alert _ hid _
    rcases List.mem_map.mp hlast with ⟨i, _, heq⟩
    rw [hid, ← heq]
    rfl

theorem converted : exists sql,
    convert backend.provider backend.celpy (some "name == 'x'") = .ok sql ∧
      involves "incident." sql.involvedFields = false :=
  ⟨_, rfl, rfl⟩

theorem selected {n i : Nat} (hi : i < n) {result : CelToSqlResult}
    (hinvolves : involves "incident." result.involvedFields = false) :
    fingerprintOf i ∈ selectedFingerprints (tablesOf n) backend "t" result := by
  refine List.mem_map.mpr ⟨⟨lastAlertOf i, alertOf i, none, none⟩, ?_, rfl⟩
  refine mem_selectedRows.mpr ⟨?_, rfl, Bool.or_true _⟩
  rw [hinvolves]
  have hrange := List.mem_range.mpr hi
  refine List.mem_map.mpr ⟨(lastAlertOf i, alertOf i), ?_, rfl⟩
  apply Rows.join_mem
  · exact List.mem_map_of_mem hrange
  · exact List.mem_map_of_mem hrange
  · show (i == i && "t" == "t") = true
    rw [beq_self_eq_true, beq_self_eq_true]
    rfl

end BatchSample

/-- Of 1001 alerts that the filter selects, one is not enriched. -/
theorem thousandAndOne_not_reached :
    ¬ ReachesSelected (BatchSample.tablesOf 1001) BatchSample.backend 50000 "t" "name == 'x'" := by
  intro h
  rcases BatchSample.converted with ⟨result, hconvert, hinvolves⟩
  have hfew := (withinLimits_of_reachesSelected h (by decide) hconvert).few
  have hsubset : (List.range 1001).map BatchSample.fingerprintOf ⊆
      (selectedFingerprints (BatchSample.tablesOf 1001) BatchSample.backend "t" result).dedup := by
    intro fingerprint hfingerprint
    rcases List.mem_map.mp hfingerprint with ⟨i, hi, heq⟩
    rw [← heq]
    exact List.mem_dedup.mpr (BatchSample.selected (List.mem_range.mp hi) hinvolves)
  have hnodup : ((List.range 1001).map BatchSample.fingerprintOf).Nodup :=
    List.nodup_range.map BatchSample.fingerprintOf_injective
  have hlength := (hnodup.subperm hsubset).length_le
  rw [List.length_map, List.length_range] at hlength
  exact absurd (Nat.le_trans hlength hfew) (by decide)

end BatchEnrichment
end Listing
end KeepGateway
