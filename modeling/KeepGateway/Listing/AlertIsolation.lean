import KeepGateway.Listing.Queries
import KeepGateway.Lib.Except
import KeepGateway.Lib.ExpandedRows

/-!
# Alerts and the rows of others

Whether the queries for alerts depend on the tenant's own live rows only.  Their joins let in
links that are deleted, and take the incidents of every tenant to say what is firing.
-/

namespace KeepGateway
namespace Listing

open Cel (Celpy CelToSqlResult Dialect Failure PropertyMetadataInfo Provider)

variable {C V : Type}

/-!
## Own live rows
-/

/-- `NULL_FOR_DELETED_AT` -/
def nullForDeletedAt : Nat := 0

/-- The same rows of a tenant, but for links that are deleted. -/
structure SameLive (tenantId : String) (db db' : Database C) : Prop where
  alerts : db.alerts.filter (fun alert => alert.tenantId == tenantId) =
    db'.alerts.filter fun alert => alert.tenantId == tenantId
  lastAlerts : db.lastAlerts.filter (fun lastAlert => lastAlert.tenantId == tenantId) =
    db'.lastAlerts.filter fun lastAlert => lastAlert.tenantId == tenantId
  links : db.links.filter (fun link =>
      link.tenantId == tenantId && link.deletedAt == nullForDeletedAt) =
    db'.links.filter fun link => link.tenantId == tenantId && link.deletedAt == nullForDeletedAt
  incidents : db.incidents.filter (fun incident => incident.tenantId == tenantId) =
    db'.incidents.filter fun incident => incident.tenantId == tenantId
  enrichments : db.enrichments.filter (fun enrichment => enrichment.tenantId == tenantId) =
    db'.enrichments.filter fun enrichment => enrichment.tenantId == tenantId

/-- The keys of the tables, and what refers to them. -/
structure Database.Valid (db : Database C) : Prop where
  alerts : (db.alerts.map fun alert => (alert.id, alert.timestamp)).Nodup
  lastAlerts : (db.lastAlerts.map fun lastAlert =>
    (lastAlert.tenantId, lastAlert.fingerprint)).Nodup
  links : db.links.Nodup
  incidents : (db.incidents.map Incident.id).Nodup
  enrichments : (db.enrichments.map IncidentEnrichment.incidentId).Nodup
  linkedAlerts : forall link, link ∈ db.links -> exists lastAlert, lastAlert ∈ db.lastAlerts ∧
    lastAlert.tenantId = link.tenantId ∧ lastAlert.fingerprint = link.fingerprint
  linkedIncidents : forall link, link ∈ db.links -> exists incident, incident ∈ db.incidents ∧
    incident.id = link.incidentId
  pastIncidents : forall incident, incident ∈ db.incidents ->
    forall id, incident.sameIncidentInThePastId = some id ->
      exists past, past ∈ db.incidents ∧ past.id = id
  enrichedIncidents : forall enrichment, enrichment ∈ db.enrichments ->
    exists incident, incident ∈ db.incidents ∧ incident.id = enrichment.incidentId

/-- The text of a filter holds, or there is none. -/
def Evaluation.admits {R : Type} (evaluation : Evaluation R V) (sql : String) (row : R) : Bool :=
  sql == "" || evaluation.holds sql row

/-- The expressions read the tables of alerts and incidents, and not that of the links. -/
structure ReadsAlertTables (evaluation : Evaluation (AlertRow C) V) : Prop where
  holds : forall sql (a b : AlertRow C), a.lastAlert = b.lastAlert -> a.alert = b.alert ->
    a.incident = b.incident -> evaluation.holds sql a = evaluation.holds sql b
  value : forall sql (a b : AlertRow C), a.lastAlert = b.lastAlert -> a.alert = b.alert ->
    a.incident = b.incident -> evaluation.value sql a = evaluation.value sql b

section Claims

variable [DecidableEq C] [DecidableEq V] (p : Provider) (celpy : Celpy)
  (evaluation : Evaluation (AlertRow C) V) (hardLimit : Nat) (query : AlertQuery)

/-- `query_last_alerts`: the alerts that are listed, in some order. -/
def queryLastAlerts (db : Database C) : Except Failure (Multiset (Alert C × LastAlert C)) :=
  (buildAlertsQuery db p celpy evaluation hardLimit query).map fun rows =>
    (rows.map fun row => (row.alert, row.lastAlert) : List (Alert C × LastAlert C))

/-- The alerts and their number depend on the tenant's own live rows only. -/
def AlertsOwnLive : Prop :=
  forall db db' : Database C, db.Valid -> db'.Valid -> SameLive query.tenantId db db' ->
    queryLastAlerts p celpy evaluation hardLimit query db =
        queryLastAlerts p celpy evaluation hardLimit query db' ∧
      buildTotalAlertsQuery db p celpy evaluation hardLimit query =
        buildTotalAlertsQuery db' p celpy evaluation hardLimit query

/-- An alert with an incident, or with none. -/
def alertWith (lastAlert : LastAlert C) (alert : Alert C) (incident : Option (Incident C)) :
    AlertRow C :=
  ⟨lastAlert, alert, none, incident⟩

/-- Where a field of incidents is involved, it makes no difference which incident an alert is
joined with: none to the filter, and where that holds, none to the sort columns, and the total
counts distinct alerts. -/
def BlindToIncidents : Prop :=
  forall result, convert p celpy query.cel = .ok result ->
    involves "incident." result.involvedFields = true ->
      forall (lastAlert : LastAlert C) (alert : Alert C) (incident : Incident C),
        lastAlert.tenantId = query.tenantId -> alert.tenantId = query.tenantId ->
          alert.id = lastAlert.alertId -> incident.tenantId = query.tenantId ->
            evaluation.admits result.sql (alertWith lastAlert alert (some incident)) =
                evaluation.admits result.sql (alertWith lastAlert alert none) ∧
              (evaluation.admits result.sql (alertWith lastAlert alert none) = true ->
                query.cel.any (containsText "incident.") = true ∧
                  forall column, column ∈ query.distinctColumns ->
                    evaluation.value column (alertWith lastAlert alert (some incident)) =
                      evaluation.value column (alertWith lastAlert alert none))

end Claims

/-!
## Rows of the joins
-/

section Joins

variable (db : Database C)

/-- The rows of one alert with its links and their incidents. -/
def expandAlert (row : AlertRow C) : List (AlertRow C) :=
  joinIncidents db (joinLinks db [row])

/-- What the row is about, without what was joined to it. -/
def bareAlert (row : AlertRow C) : AlertRow C := alertWith row.lastAlert row.alert none

theorem joinLinks_flatMap (rows : List (AlertRow C)) :
    joinLinks db rows = rows.flatMap fun row => joinLinks db [row] := by
  unfold joinLinks
  rw [Rows.leftJoin_flatMap, List.map_flatMap]

theorem joinIncidents_flatMap (rows : List (AlertRow C)) :
    joinIncidents db rows = rows.flatMap fun row => joinIncidents db [row] := by
  unfold joinIncidents
  rw [Rows.leftJoin_flatMap, List.map_flatMap]

theorem fromLastAlert_true :
    fromLastAlert db true = (joinAlerts db).flatMap (expandAlert db) := by
  show joinIncidents db (joinLinks db (joinAlerts db)) = _
  rw [joinIncidents_flatMap, joinLinks_flatMap, List.flatMap_assoc]
  refine List.flatMap_congr fun row _ => ?_
  exact (joinIncidents_flatMap db _).symm

theorem expandAlert_ne_nil (row : AlertRow C) : expandAlert db row ≠ [] := by
  unfold expandAlert
  intro hnil
  have hlinks : joinLinks db [row] ≠ [] := fun h =>
    Rows.leftJoin_singleton_ne_nil _ row db.links (List.map_eq_nil_iff.mp h)
  rcases List.exists_mem_of_ne_nil _ hlinks with ⟨linked, hlinked⟩
  rw [joinIncidents_flatMap] at hnil
  have hrow := List.flatMap_eq_nil_iff.mp hnil linked hlinked
  exact Rows.leftJoin_singleton_ne_nil _ linked db.incidents (List.map_eq_nil_iff.mp hrow)

variable {db}

theorem mem_expandAlert {row joined : AlertRow C} (h : joined ∈ expandAlert db row) :
    joined.lastAlert = row.lastAlert ∧ joined.alert = row.alert ∧
      forall incident, joined.incident = some incident ->
        incident.tenantId = row.lastAlert.tenantId := by
  rcases List.mem_map.mp h with ⟨pair, hpair, heq⟩
  rcases Rows.mem_leftJoin hpair with ⟨hlinked, hsome, -⟩
  rcases List.mem_map.mp hlinked with ⟨linkPair, hlinkPair, heq'⟩
  rcases Rows.mem_leftJoin hlinkPair with ⟨hrow, hlink, -⟩
  have hrow := List.mem_singleton.mp hrow
  rw [← heq, ← heq', hrow]
  refine ⟨rfl, rfl, fun incident hincident => ?_⟩
  rcases Bool.and_eq_true_iff.mp (hsome incident hincident).2 with ⟨hon, -⟩
  rw [← heq', Option.any_eq_true] at hon
  rcases hon with ⟨link, hlinkEq, hids⟩
  rcases Bool.and_eq_true_iff.mp hids with ⟨htenant, -⟩
  rcases Bool.and_eq_true_iff.mp (hlink link hlinkEq).2 with ⟨hown, -⟩
  rw [hrow] at hown
  rw [← beq_iff_eq.mp htenant, ← beq_iff_eq.mp hown]

theorem mem_joinAlerts_bare {row : AlertRow C} (h : row ∈ joinAlerts db) :
    bareAlert row = row ∧ row.alert.id = row.lastAlert.alertId ∧
      row.alert.tenantId = row.lastAlert.tenantId := by
  rcases List.mem_map.mp h with ⟨pair, hpair, heq⟩
  rcases Bool.and_eq_true_iff.mp (Rows.mem_join hpair).2.2 with ⟨hid, htenant⟩
  rw [← heq]
  exact ⟨rfl, beq_iff_eq.mp hid, beq_iff_eq.mp htenant⟩

theorem expands_alerts : Rows.Expands bareAlert (expandAlert db) (joinAlerts db) where
  ne_nil := fun row _ => expandAlert_ne_nil db row
  item_eq := by
    intro row hrow joined hjoined
    rcases mem_expandAlert hjoined with ⟨hlast, halert, -⟩
    rw [← (mem_joinAlerts_bare hrow).1]
    unfold bareAlert
    rw [hlast, halert]

/-- The tenant's own alerts are those of its own rows. -/
theorem ownAlerts_eq {tenantId : String} {db' : Database C} (h : SameLive tenantId db db') :
    (joinAlerts db).filter (fun row => row.lastAlert.tenantId == tenantId) =
      (joinAlerts db').filter fun row => row.lastAlert.tenantId == tenantId := by
  have hown : forall db : Database C,
      (joinAlerts db).filter (fun row => row.lastAlert.tenantId == tenantId) =
        (Rows.join
          (fun (lastAlert : LastAlert C) (alert : Alert C) =>
            alert.id == lastAlert.alertId && alert.tenantId == lastAlert.tenantId)
          (db.lastAlerts.filter fun lastAlert => lastAlert.tenantId == tenantId)
          (db.alerts.filter fun alert => alert.tenantId == tenantId)).map
            fun r => ⟨r.1, r.2, none, none⟩ := by
    intro db
    unfold joinAlerts
    rw [List.filter_map, Rows.join_filter_right, ← Rows.filter_join]
    · rfl
    · intro lastAlert hlast alert hon
      rcases Bool.and_eq_true_iff.mp hon with ⟨-, htenant⟩
      rw [beq_iff_eq.mp htenant]
      exact (List.mem_filter.mp hlast).2
  rw [hown db, hown db', h.alerts, h.lastAlerts]

end Joins

/-!
## Blind filters
-/

section Blind

variable {p : Provider} {celpy : Celpy} {evaluation : Evaluation (AlertRow C) V}
  {hardLimit : Nat} {query : AlertQuery} {result : CelToSqlResult} {db db' : Database C}

theorem threshold_eq {tenantId : String} (h : SameLive tenantId db db') :
    threshold db hardLimit tenantId = threshold db' hardLimit tenantId := by
  unfold threshold
  rw [h.lastAlerts]

/-- What the query asks of a row. -/
def AlertQuery.keeps (query : AlertQuery) (evaluation : Evaluation (AlertRow C) V) (sql : String)
    (threshold : Option Nat) (row : AlertRow C) : Bool :=
  row.lastAlert.tenantId == query.tenantId &&
    threshold.all (fun t => t <= row.lastAlert.timestamp) && evaluation.admits sql row

theorem buildQueryForFiltering_of (hconvert : convert p celpy query.cel = .ok result) :
    buildQueryForFiltering db p celpy evaluation hardLimit query =
      .ok ((fromLastAlert db (involves "incident." result.involvedFields)).filter
        (query.keeps evaluation result.sql (threshold db hardLimit query.tenantId)),
        involves "incident." result.involvedFields) := by
  unfold buildQueryForFiltering
  rw [hconvert]
  rfl

/-- The alerts that the filter admits before anything is joined to them. -/
def admittedAlerts (db : Database C) (evaluation : Evaluation (AlertRow C) V) (hardLimit : Nat)
    (query : AlertQuery) (sql : String) : List (AlertRow C) :=
  (joinAlerts db).filter
    (query.keeps evaluation sql (threshold db hardLimit query.tenantId))

theorem admittedAlerts_eq (h : SameLive query.tenantId db db') (sql : String) :
    admittedAlerts db evaluation hardLimit query sql =
      admittedAlerts db' evaluation hardLimit query sql := by
  have hown : forall db : Database C, admittedAlerts db evaluation hardLimit query sql =
      ((joinAlerts db).filter fun row => row.lastAlert.tenantId == query.tenantId).filter
        (query.keeps evaluation sql (threshold db hardLimit query.tenantId)) := by
    intro db
    rw [List.filter_filter]
    refine List.filter_congr fun row _ => ?_
    unfold AlertQuery.keeps
    cases row.lastAlert.tenantId == query.tenantId with
    | false => rfl
    | true => exact (Bool.and_true _).symm
  rw [hown db, hown db', ownAlerts_eq h, threshold_eq h]

/-- A row reads like its alert with the incident that is joined. -/
theorem ReadsAlertTables.admits (hreads : ReadsAlertTables evaluation) (sql : String)
    (row : AlertRow C) :
    evaluation.admits sql row =
      evaluation.admits sql (alertWith row.lastAlert row.alert row.incident) := by
  unfold Evaluation.admits
  rw [hreads.holds sql row (alertWith row.lastAlert row.alert row.incident) rfl rfl rfl]

theorem expands_admitted {sql : String} :
    Rows.Expands bareAlert (expandAlert db)
      (admittedAlerts db evaluation hardLimit query sql) :=
  expands_alerts.sublist List.filter_sublist

/-- An admitted alert is an own one that the filter holds of. -/
theorem mem_admittedAlerts {sql : String} {row : AlertRow C}
    (h : row ∈ admittedAlerts db evaluation hardLimit query sql) :
    row ∈ joinAlerts db ∧ row.lastAlert.tenantId = query.tenantId ∧
      evaluation.admits sql row = true := by
  rcases List.mem_filter.mp h with ⟨hrow, hkeeps⟩
  rcases Bool.and_eq_true_iff.mp hkeeps with ⟨hscope, hadmits⟩
  exact ⟨hrow, beq_iff_eq.mp (Bool.and_eq_true_iff.mp hscope).1, hadmits⟩

section Expanded

variable (hreads : ReadsAlertTables evaluation)
  (hblind : BlindToIncidents (C := C) p celpy evaluation query)
  (hconvert : convert p celpy query.cel = .ok result)
  (hinvolved : involves "incident." result.involvedFields = true)

include hreads hblind hconvert hinvolved

theorem admits_expandAlert {row joined : AlertRow C} (hrow : row ∈ joinAlerts db)
    (hown : row.lastAlert.tenantId = query.tenantId) (hjoined : joined ∈ expandAlert db row) :
    evaluation.admits result.sql joined = evaluation.admits result.sql row := by
  rcases mem_joinAlerts_bare hrow with ⟨hbare, hid, htenant⟩
  rcases mem_expandAlert hjoined with ⟨hlast, halert, hincident⟩
  rw [hreads.admits, hlast, halert]
  conv_rhs => rw [← hbare]
  cases hjoin : joined.incident with
  | none => rfl
  | some incident =>
      exact (hblind result hconvert hinvolved row.lastAlert row.alert incident hown
        (htenant.trans hown) hid ((hincident incident hjoin).trans hown)).1

theorem value_expandAlert {row joined : AlertRow C} (hrow : row ∈ joinAlerts db)
    (hown : row.lastAlert.tenantId = query.tenantId)
    (hadmits : evaluation.admits result.sql row = true) (hjoined : joined ∈ expandAlert db row)
    {column : String} (hcolumn : column ∈ query.distinctColumns) :
    evaluation.value column joined = evaluation.value column row := by
  rcases mem_joinAlerts_bare hrow with ⟨hbare, hid, htenant⟩
  rcases mem_expandAlert hjoined with ⟨hlast, halert, hincident⟩
  rw [hreads.value column joined (alertWith row.lastAlert row.alert joined.incident) hlast halert
    rfl]
  conv_rhs => rw [← hbare]
  cases hjoin : joined.incident with
  | none => rfl
  | some incident =>
      rw [← hbare] at hadmits
      exact ((hblind result hconvert hinvolved row.lastAlert row.alert incident hown
        (htenant.trans hown) hid ((hincident incident hjoin).trans hown)).2 hadmits).2 column
          hcolumn

/-- All rows of an admitted alert are kept, and no others. -/
theorem filter_fromLastAlert :
    (fromLastAlert db true).filter
        (query.keeps evaluation result.sql (threshold db hardLimit query.tenantId)) =
      (admittedAlerts db evaluation hardLimit query result.sql).flatMap (expandAlert db) := by
  rw [fromLastAlert_true]
  refine Rows.filter_flatMap_of fun row hrow joined hjoined => ?_
  rcases mem_expandAlert hjoined with ⟨hlast, -, -⟩
  unfold AlertQuery.keeps
  rw [hlast]
  cases hown : row.lastAlert.tenantId == query.tenantId with
  | false => rfl
  | true =>
      rw [admits_expandAlert hreads hblind hconvert hinvolved hrow (beq_iff_eq.mp hown) hjoined]

variable [DecidableEq C] [DecidableEq V]

/-- The list shows the admitted alerts, each once. -/
theorem kept_alertListKey :
    (Rows.kept (alertListKey p evaluation query true)
        ((admittedAlerts db evaluation hardLimit query result.sql).flatMap
          (expandAlert db))).map bareAlert =
      Rows.kept (alertListKey p evaluation query true)
        (admittedAlerts db evaluation hardLimit query result.sql) := by
  refine expands_admitted.map_distinctOn fun row hadmitted joined hjoined => ?_
  rcases mem_admittedAlerts hadmitted with ⟨hrow, hown, hadmits⟩
  rcases mem_expandAlert hjoined with ⟨hlast, halert, -⟩
  have hvalues : query.distinctColumns.map (fun column => evaluation.value column joined) =
      query.distinctColumns.map fun column => evaluation.value column row := by
    refine List.map_congr_left fun column hcolumn => ?_
    exact value_expandAlert hreads hblind hconvert hinvolved hrow hown hadmits hjoined hcolumn
  simp only [hvalues, hlast, halert]

omit hreads [DecidableEq C] [DecidableEq V] in
theorem counts_distinct {row : AlertRow C}
    (h : row ∈ admittedAlerts db evaluation hardLimit query result.sql) :
    query.cel.any (containsText "incident.") = true := by
  rcases mem_admittedAlerts h with ⟨hrow, hown, hadmits⟩
  rcases mem_joinAlerts_bare hrow with ⟨hbare, hid, htenant⟩
  rw [← hbare] at hadmits
  exact ((hblind result hconvert hinvolved row.lastAlert row.alert
    ⟨0, query.tenantId, "", true, false, none, none, none, none, row.alert.columns⟩ hown
    (htenant.trans hown) hid rfl).2 hadmits).1

omit hreads [DecidableEq C] [DecidableEq V] in
/-- The total counts the admitted alerts, each once. -/
theorem kept_alertCountKey :
    (Rows.kept (alertCountKey query)
        ((admittedAlerts db evaluation hardLimit query result.sql).flatMap
          (expandAlert db))).length =
      (Rows.kept (alertCountKey query)
        (admittedAlerts db evaluation hardLimit query result.sql)).length := by
  cases hadmitted : admittedAlerts db evaluation hardLimit query result.sql with
  | nil => rfl
  | cons row rest =>
      have hmem : row ∈ admittedAlerts db evaluation hardLimit query result.sql := by
        rw [hadmitted]
        exact List.mem_cons_self
      have hkey : alertCountKey (C := C) query = some fun row => row.lastAlert.alertId := by
        unfold alertCountKey
        rw [counts_distinct hblind hconvert hinvolved hmem]
        rfl
      rw [← hadmitted, hkey]
      have hone : (Rows.distinctOn (fun row : AlertRow C => row.lastAlert.alertId)
          ((admittedAlerts db evaluation hardLimit query result.sql).flatMap
            (expandAlert db))).map bareAlert =
          Rows.distinctOn (fun row => row.lastAlert.alertId)
            (admittedAlerts db evaluation hardLimit query result.sql) :=
        expands_admitted.map_distinctOn fun row _ joined hjoined =>
          congrArg LastAlert.alertId (mem_expandAlert hjoined).1
      show (Rows.distinctOn _ _).length = (Rows.distinctOn _ _).length
      rw [← hone, List.length_map]

end Expanded

section Answers

variable [DecidableEq C] [DecidableEq V] (hreads : ReadsAlertTables evaluation)
  (hblind : BlindToIncidents (C := C) p celpy evaluation query)
  (hconvert : convert p celpy query.cel = .ok result)

include hreads hblind hconvert

theorem queryLastAlerts_of_blind (db : Database C) :
    queryLastAlerts p celpy evaluation hardLimit query db =
      .ok ((Rows.kept (alertListKey p evaluation query
          (involves "incident." result.involvedFields))
        (admittedAlerts db evaluation hardLimit query result.sql)).map
          fun row => (row.alert, row.lastAlert) : List (Alert C × LastAlert C)) := by
  unfold queryLastAlerts buildAlertsQuery
  rw [buildQueryForFiltering_of hconvert]
  cases hinvolved : involves "incident." result.involvedFields with
  | false => rfl
  | true =>
      rw [filter_fromLastAlert hreads hblind hconvert hinvolved,
        ← kept_alertListKey hreads hblind hconvert hinvolved, List.map_map]
      rfl

omit [DecidableEq C] [DecidableEq V] in
theorem buildTotalAlertsQuery_of_blind (db : Database C) :
    buildTotalAlertsQuery db p celpy evaluation hardLimit query =
      .ok (Rows.kept (alertCountKey query)
        (admittedAlerts db evaluation hardLimit query result.sql)).length := by
  unfold buildTotalAlertsQuery
  rw [buildQueryForFiltering_of hconvert]
  cases hinvolved : involves "incident." result.involvedFields with
  | false => rfl
  | true =>
      rw [filter_fromLastAlert hreads hblind hconvert hinvolved,
        ← kept_alertCountKey hblind hconvert hinvolved]
      rfl

end Answers

/-- Own alerts are all that the queries look at where the filter is blind to incidents. -/
theorem alertsOwnLive_of_blind [DecidableEq C] [DecidableEq V]
    (hreads : ReadsAlertTables evaluation)
    (hblind : BlindToIncidents (C := C) p celpy evaluation query) :
    AlertsOwnLive p celpy evaluation hardLimit query := by
  intro db db' _ _ hsame
  cases hconvert : convert p celpy query.cel with
  | error e =>
      have hbuilt : forall db : Database C,
          buildQueryForFiltering db p celpy evaluation hardLimit query = .error e := by
        intro db
        unfold buildQueryForFiltering
        rw [hconvert]
        rfl
      unfold queryLastAlerts buildAlertsQuery buildTotalAlertsQuery
      rw [hbuilt db, hbuilt db']
      exact ⟨rfl, rfl⟩
  | ok result =>
      rw [queryLastAlerts_of_blind hreads hblind hconvert db,
        queryLastAlerts_of_blind hreads hblind hconvert db',
        buildTotalAlertsQuery_of_blind hreads hblind hconvert db,
        buildTotalAlertsQuery_of_blind hreads hblind hconvert db', admittedAlerts_eq hsame]
      exact ⟨rfl, rfl⟩

end Blind

end Listing
end KeepGateway
