import KeepGateway.Listing.AlertIsolation
import KeepGateway.Lib.FirstMatch

/-!
# Incidents and the rows of others

Whether the queries for incidents depend on the tenant's own live rows only.  Their join lets
in the links that are deleted, and alerts of every tenant.
-/

namespace KeepGateway
namespace Listing

open Cel (Celpy CelToSqlResult Dialect Failure PropertyMetadataInfo Provider)

variable {C V : Type}

/-- The expressions read the tables of incidents and alerts, and not that of the links. -/
structure ReadsIncidentTables (evaluation : Evaluation (IncidentRow C) V) : Prop where
  holds : forall sql (a b : IncidentRow C), { a with link := none } = { b with link := none } ->
    evaluation.holds sql a = evaluation.holds sql b

/-- The sort columns are columns of the incident and its enrichment. -/
def SortsByIncident (evaluation : Evaluation (IncidentRow C) V) (query : IncidentQuery) : Prop :=
  forall column, column ∈ query.distinctColumns -> forall a b : IncidentRow C,
    a.incident = b.incident -> a.enrichment = b.enrichment ->
      evaluation.value column a = evaluation.value column b

/-- `fetch_has_linked_incident` -/
def fetchesHasLinkedIncident (result : CelToSqlResult) : Bool :=
  result.involvedFields.any fun field => field.fieldName == "hasLinkedIncident"

def hasLinkedIncident (result : CelToSqlResult) (incident : Incident C) : Option Bool :=
  if fetchesHasLinkedIncident result then some incident.sameIncidentInThePastId.isSome else none

/-- An incident with its enrichment, and with an alert or none. -/
def incidentWith (result : CelToSqlResult) (incident : Incident C)
    (enrichment : Option (IncidentEnrichment C)) (lastAlert : Option (LastAlert C))
    (alert : Option (Alert C)) : IncidentRow C :=
  ⟨incident, none, lastAlert, alert, enrichment, hasLinkedIncident result incident⟩

/-- An incident that the query does not leave out for reasons of its own. -/
structure IncidentQuery.Selects (query : IncidentQuery) (incident : Incident C)
    (enrichment : Option (IncidentEnrichment C)) : Prop where
  tenantId : incident.tenantId = query.tenantId
  isVisible : incident.isVisible = true
  admits : query.admits incident = true
  enriched : forall some_enrichment, enrichment = some some_enrichment ->
    some_enrichment.tenantId = incident.tenantId ∧ some_enrichment.incidentId = incident.id

section Claims

variable [DecidableEq C] [DecidableEq V] (p : Provider) (celpy : Celpy)
  (evaluation : Evaluation (IncidentRow C) V) (query : IncidentQuery)

/-- The two queries, one after the other. -/
def lastIncidents (db : Database C) :
    Except Failure (Multiset (SelectedIncident C) × Nat) := do
  let totalCount <- buildLastIncidentsTotalCountQuery db p celpy evaluation query
  let rows <- buildLastIncidentsQuery db p celpy evaluation query
  .ok ((rows.map fun row => ⟨row.incident, row.enrichment⟩ : List (SelectedIncident C)),
    totalCount)

/-- `get_last_incidents_by_cel`: the incidents that are listed, in some order, and their
number.  Nothing is listed where a field has no mapping. -/
def getLastIncidentsByCel (db : Database C) :
    Except Failure (Multiset (SelectedIncident C) × Nat) :=
  match lastIncidents p celpy evaluation query db with
  | .error (.rejected e) =>
      if e.code = .unknownField then .ok (0, 0) else .error (.rejected e)
  | answer => answer

/-- The incidents and their number depend on the tenant's own live rows only. -/
def IncidentsOwnLive : Prop :=
  forall db db' : Database C, db.Valid -> db'.Valid -> SameLive query.tenantId db db' ->
    getLastIncidentsByCel p celpy evaluation query db =
      getLastIncidentsByCel p celpy evaluation query db'

/-- Where a field of alerts is involved, it makes no difference to the filter which alert an
incident is joined with, and where the filter holds, the total counts distinct incidents. -/
def BlindToAlerts : Prop :=
  forall result, convert p celpy query.cel = .ok result ->
    involves "alert." result.involvedFields = true ->
      forall (incident : Incident C) (enrichment : Option (IncidentEnrichment C)),
        query.Selects incident enrichment ->
          forall (lastAlert : LastAlert C) (alert : Option (Alert C)),
            lastAlert.tenantId = query.tenantId ->
              (forall joined, alert = some joined -> joined.id = lastAlert.alertId) ->
                evaluation.admits result.sql
                    (incidentWith result incident enrichment (some lastAlert) alert) =
                  evaluation.admits result.sql (incidentWith result incident enrichment none none) ∧
                (evaluation.admits result.sql
                    (incidentWith result incident enrichment none none) = true ->
                  query.cel.any (containsText "alert.") = true)

end Claims

/-!
## Rows of the joins
-/

section Joins

variable {db : Database C} {result : CelToSqlResult}

/-- The enrichment that goes with an incident. -/
def enrichmentOf (db : Database C) (incident : Incident C) : Option (IncidentEnrichment C) :=
  db.enrichments.find? fun enrichment =>
    incident.tenantId == enrichment.tenantId && incident.id == enrichment.incidentId

/-- A row with what belongs to its incident. -/
def decorate (db : Database C) (result : CelToSqlResult) (row : IncidentRow C) : IncidentRow C :=
  { row with
    enrichment := enrichmentOf db row.incident
    hasLinkedIncident := hasLinkedIncident result row.incident }

theorem joinEnrichments_eq_map (hvalid : db.Valid) (rows : List (IncidentRow C)) :
    joinEnrichments db rows =
      rows.map fun row => { row with enrichment := enrichmentOf db row.incident } := by
  unfold joinEnrichments
  rw [Rows.leftJoin_eq_map, List.map_map]
  · rfl
  · intro row _
    have hkey : forall enrichment, enrichment ∈ db.enrichments ->
        (row.incident.tenantId == enrichment.tenantId &&
          row.incident.id == enrichment.incidentId) = true ->
          enrichment.incidentId = row.incident.id := by
      intro enrichment _ hon
      exact (beq_iff_eq.mp (Bool.and_eq_true_iff.mp hon).2).symm
    exact FirstMatch.filter_of_key hvalid.enrichments hkey

theorem joinHasLinkedIncident_eq_map (hvalid : db.Valid) {rows : List (IncidentRow C)}
    (hrows : forall row, row ∈ rows -> row.incident ∈ db.incidents) :
    joinHasLinkedIncident db rows = rows.map fun row =>
      { row with hasLinkedIncident := some row.incident.sameIncidentInThePastId.isSome } := by
  unfold joinHasLinkedIncident
  rw [@Rows.join_eq_map _ _ _ _ _ IncidentRow.incident, List.map_map]
  · rfl
  · intro row hrow
    have hkey : (fun other : Incident C => row.incident.id == other.id) =
        fun other => other.id == row.incident.id := by
      funext other
      exact Bool.beq_comm
    rw [hkey, FirstMatch.filter_of_key hvalid.incidents fun _ _ hon => beq_iff_eq.mp hon,
      (FirstMatch.find?_key hvalid.incidents).mpr ⟨hrows row hrow, rfl⟩]
    rfl

/-- The links are followed for each incident by itself. -/
theorem joinLinkedAlerts_flatMap (tenantId : String) (rows : List (IncidentRow C)) :
    joinLinkedAlerts db tenantId rows =
      rows.flatMap fun row => joinLinkedAlerts db tenantId [row] := by
  unfold joinLinkedAlerts
  simp only
  rw [Rows.leftJoin_flatMap _ rows, List.map_flatMap, Rows.leftJoin_flatMap_left,
    List.map_flatMap, Rows.leftJoin_flatMap_left, List.map_flatMap]

theorem joinLinkedAlerts_ne_nil (tenantId : String) (row : IncidentRow C) :
    joinLinkedAlerts db tenantId [row] ≠ [] := by
  have hmap : forall {α β : Type} {f : α -> β} {l : List α}, l ≠ [] -> l.map f ≠ [] :=
    fun h hnil => h (List.map_eq_nil_iff.mp hnil)
  unfold joinLinkedAlerts
  exact hmap (Rows.leftJoin_ne_nil _ _ (hmap (Rows.leftJoin_ne_nil _ _
    (hmap (Rows.leftJoin_singleton_ne_nil _ row _)))))

/-- What an incident is joined with: nothing, or a last alert of the tenant and an alert of
that id. -/
theorem mem_joinLinkedAlerts_singleton {tenantId : String} {incident : Incident C}
    {row : IncidentRow C} (h : row ∈ joinLinkedAlerts db tenantId [incidentRow incident]) :
    (row.incident = incident ∧ row.hasLinkedIncident = none) ∧
      ((row.lastAlert = none ∧ row.alert = none) ∨
        exists lastAlert, row.lastAlert = some lastAlert ∧ lastAlert.tenantId = tenantId ∧
          forall joined, row.alert = some joined -> joined.id = lastAlert.alertId) := by
  rcases List.mem_map.mp h with ⟨third, hthird, hrow⟩
  rcases Rows.mem_leftJoin hthird with ⟨hthird, halert, -⟩
  rcases List.mem_map.mp hthird with ⟨second, hsecond, heq⟩
  rcases Rows.mem_leftJoin hsecond with ⟨hsecond, hlast, -⟩
  rcases List.mem_map.mp hsecond with ⟨first, hfirst, heq'⟩
  have hfirst := List.mem_singleton.mp (Rows.mem_leftJoin hfirst).1
  rw [← hrow]
  constructor
  · show third.1.incident = incident ∧ third.1.hasLinkedIncident = none
    rw [← heq]
    show second.1.incident = incident ∧ second.1.hasLinkedIncident = none
    rw [← heq', hfirst]
    exact ⟨rfl, rfl⟩
  · show (third.1.lastAlert = none ∧ third.2 = none) ∨ exists lastAlert,
      third.1.lastAlert = some lastAlert ∧ _
    cases hjoined : third.1.lastAlert with
    | none =>
        left
        cases hfound : third.2 with
        | none => exact ⟨rfl, rfl⟩
        | some joined =>
            have hon := (halert joined hfound).2
            rw [hjoined] at hon
            cases hon
    | some lastAlert =>
        right
        have hsecondLast : second.2 = some lastAlert := by
          rw [← hjoined, ← heq]
        have hown := (Bool.and_eq_true_iff.mp (hlast lastAlert hsecondLast).2).1
        refine ⟨lastAlert, rfl, beq_iff_eq.mp hown, fun joined hfound => ?_⟩
        have hon := (halert joined hfound).2
        rw [hjoined, Option.any_some] at hon
        exact (beq_iff_eq.mp (Bool.and_eq_true_iff.mp hon).1).symm

/-!
## Rows of each incident
-/

/-- An incident before alerts are joined. -/
def bareIncident (row : IncidentRow C) : IncidentRow C :=
  { row with link := none, lastAlert := none, alert := none }

def bareIncidents (db : Database C) (result : CelToSqlResult) : List (IncidentRow C) :=
  db.incidents.map fun incident => decorate db result (incidentRow incident)

/-- The rows of one incident with its links and their alerts. -/
def expandIncident (db : Database C) (result : CelToSqlResult) (tenantId : String)
    (row : IncidentRow C) : List (IncidentRow C) :=
  (joinLinkedAlerts db tenantId [incidentRow row.incident]).map (decorate db result)

theorem mem_bareIncidents {row : IncidentRow C} (h : row ∈ bareIncidents db result) :
    row.incident ∈ db.incidents ∧ row.enrichment = enrichmentOf db row.incident ∧
      row = incidentWith result row.incident row.enrichment none none := by
  rcases List.mem_map.mp h with ⟨incident, hincident, heq⟩
  rw [← heq]
  exact ⟨hincident, rfl, rfl⟩

theorem fromIncident_eq (hvalid : db.Valid) (tenantId : String) (fetchAlerts : Bool) :
    fromIncident db tenantId fetchAlerts (fetchesHasLinkedIncident result) =
      (if fetchAlerts then joinLinkedAlerts db tenantId (db.incidents.map incidentRow)
        else db.incidents.map incidentRow).map (decorate db result) := by
  have hincidents : forall row, row ∈ (if fetchAlerts then
      joinLinkedAlerts db tenantId (db.incidents.map incidentRow)
        else db.incidents.map incidentRow) ->
          row.incident ∈ db.incidents ∧ row.hasLinkedIncident = none := by
    intro row hrow
    cases fetchAlerts with
    | false =>
        rcases List.mem_map.mp hrow with ⟨incident, hincident, heq⟩
        rw [← heq]
        exact ⟨hincident, rfl⟩
    | true =>
        rw [if_pos rfl, joinLinkedAlerts_flatMap, List.flatMap_map] at hrow
        rcases List.mem_flatMap.mp hrow with ⟨incident, hincident, hjoined⟩
        rcases (mem_joinLinkedAlerts_singleton hjoined).1 with ⟨heq, hnone⟩
        rw [heq]
        exact ⟨hincident, hnone⟩
  unfold fromIncident
  simp only
  rw [joinEnrichments_eq_map hvalid]
  cases hfetches : fetchesHasLinkedIncident result with
  | false =>
      refine List.map_congr_left fun row hrow => ?_
      unfold decorate hasLinkedIncident
      rw [hfetches, ← (hincidents row hrow).2]
      rfl
  | true =>
      rw [if_pos rfl, joinHasLinkedIncident_eq_map hvalid, List.map_map]
      · unfold decorate hasLinkedIncident
        rw [hfetches]
        rfl
      · intro row hrow
        rcases List.mem_map.mp hrow with ⟨before, hbefore, heq⟩
        rw [← heq]
        exact (hincidents before hbefore).1

theorem fromIncident_false (hvalid : db.Valid) (tenantId : String) :
    fromIncident db tenantId false (fetchesHasLinkedIncident result) =
      bareIncidents db result := by
  rw [fromIncident_eq hvalid]
  exact List.map_map

theorem fromIncident_true (hvalid : db.Valid) (tenantId : String) :
    fromIncident db tenantId true (fetchesHasLinkedIncident result) =
      (bareIncidents db result).flatMap (expandIncident db result tenantId) := by
  unfold bareIncidents
  rw [fromIncident_eq hvalid, if_pos rfl, joinLinkedAlerts_flatMap, List.map_flatMap,
    List.flatMap_map, List.flatMap_map]
  rfl

theorem mem_expandIncident {tenantId : String} {row joined : IncidentRow C}
    (hrow : row ∈ bareIncidents db result)
    (h : joined ∈ expandIncident db result tenantId row) :
    { joined with link := none } =
        incidentWith result row.incident row.enrichment joined.lastAlert joined.alert ∧
      ((joined.lastAlert = none ∧ joined.alert = none) ∨
        exists lastAlert, joined.lastAlert = some lastAlert ∧ lastAlert.tenantId = tenantId ∧
          forall alert, joined.alert = some alert -> alert.id = lastAlert.alertId) := by
  rcases List.mem_map.mp h with ⟨undecorated, hmem, heq⟩
  rcases mem_joinLinkedAlerts_singleton hmem with ⟨⟨hincident, -⟩, halerts⟩
  rw [← heq]
  constructor
  · rw [(mem_bareIncidents hrow).2.1]
    unfold decorate incidentWith
    rw [hincident]
  · exact halerts

theorem expandIncident_shows {tenantId : String} {row joined : IncidentRow C}
    (hrow : row ∈ bareIncidents db result)
    (h : joined ∈ expandIncident db result tenantId row) :
    joined.incident = row.incident ∧ joined.enrichment = row.enrichment := by
  have hincident := congrArg IncidentRow.incident (mem_expandIncident hrow h).1
  have henrichment := congrArg IncidentRow.enrichment (mem_expandIncident hrow h).1
  exact ⟨hincident, henrichment⟩

theorem bareIncident_of_mem {tenantId : String} {row joined : IncidentRow C}
    (hrow : row ∈ bareIncidents db result)
    (h : joined ∈ expandIncident db result tenantId row) : bareIncident joined = row := by
  rw [(mem_bareIncidents hrow).2.2]
  exact congrArg bareIncident (mem_expandIncident hrow h).1

theorem expands_incidents (tenantId : String) :
    Rows.Expands bareIncident (expandIncident db result tenantId) (bareIncidents db result) where
  ne_nil := fun row _ hnil =>
    joinLinkedAlerts_ne_nil tenantId (incidentRow row.incident) (List.map_eq_nil_iff.mp hnil)
  item_eq := fun _ hrow _ hjoined => bareIncident_of_mem hrow hjoined

end Joins

/-!
## Blind filters
-/

section Blind

variable {p : Provider} {celpy : Celpy} {evaluation : Evaluation (IncidentRow C) V}
  {query : IncidentQuery} {result : CelToSqlResult} {db db' : Database C}

/-- What the query asks of a row. -/
def IncidentQuery.keeps (query : IncidentQuery) (evaluation : Evaluation (IncidentRow C) V)
    (sql : String) (row : IncidentRow C) : Bool :=
  row.incident.tenantId == query.tenantId && row.incident.isVisible &&
    evaluation.admits sql row && query.admits row.incident

theorem buildBaseIncidentQuery_of (hconvert : convert p celpy query.cel = .ok result) :
    buildBaseIncidentQuery db p celpy evaluation query =
      .ok ((fromIncident db query.tenantId (involves "alert." result.involvedFields)
          (fetchesHasLinkedIncident result)).filter (query.keeps evaluation result.sql),
        involves "alert." result.involvedFields) := by
  unfold buildBaseIncidentQuery
  rw [hconvert]
  rfl

/-- The incidents that the query keeps before alerts are joined to them. -/
def admittedIncidents (db : Database C) (evaluation : Evaluation (IncidentRow C) V)
    (query : IncidentQuery) (result : CelToSqlResult) : List (IncidentRow C) :=
  (bareIncidents db result).filter (query.keeps evaluation result.sql)

theorem enrichmentOf_eq {tenantId : String} (h : SameLive tenantId db db')
    {incident : Incident C} (hown : incident.tenantId = tenantId) :
    enrichmentOf db incident = enrichmentOf db' incident := by
  have hfilter : forall db : Database C, enrichmentOf db incident =
      (db.enrichments.filter fun enrichment => enrichment.tenantId == tenantId).find?
        fun enrichment =>
          incident.tenantId == enrichment.tenantId && incident.id == enrichment.incidentId := by
    intro db
    rw [List.find?_filter]
    unfold enrichmentOf
    congr 1
    funext enrichment
    rw [hown, Bool.beq_comm]
    cases enrichment.tenantId == tenantId <;>
      cases incident.id == enrichment.incidentId <;> rfl
  rw [hfilter db, hfilter db', h.enrichments]

theorem admittedIncidents_eq (h : SameLive query.tenantId db db') :
    admittedIncidents db evaluation query result =
      admittedIncidents db' evaluation query result := by
  have hown : forall db : Database C, admittedIncidents db evaluation query result =
      ((db.incidents.filter fun incident => incident.tenantId == query.tenantId).map
        fun incident => decorate db result (incidentRow incident)).filter
          (query.keeps evaluation result.sql) := by
    intro db
    unfold admittedIncidents bareIncidents
    rw [List.filter_map, List.filter_map, List.filter_filter]
    congr 1
    refine List.filter_congr fun incident _ => ?_
    cases hown : incident.tenantId == query.tenantId with
    | true => exact (Bool.and_true _).symm
    | false =>
        unfold IncidentQuery.keeps
        show (incident.tenantId == query.tenantId && _ && _ && _) = _
        rw [hown]
        exact (Bool.and_false _).symm
  rw [hown db, hown db', h.incidents]
  congr 1
  refine List.map_congr_left fun incident hincident => ?_
  have hown := beq_iff_eq.mp (List.mem_filter.mp hincident).2
  unfold decorate
  rw [show (incidentRow incident).incident = incident from rfl, enrichmentOf_eq h hown]

theorem selects_of_bare {row : IncidentRow C} (hrow : row ∈ bareIncidents db result)
    (hscope : (row.incident.tenantId == query.tenantId && row.incident.isVisible) = true)
    (hquery : query.admits row.incident = true) :
    query.Selects row.incident row.enrichment := by
  rcases Bool.and_eq_true_iff.mp hscope with ⟨hown, hvisible⟩
  refine ⟨beq_iff_eq.mp hown, hvisible, hquery, fun enrichment henrichment => ?_⟩
  rw [(mem_bareIncidents hrow).2.1] at henrichment
  have hon := List.find?_some henrichment
  rcases Bool.and_eq_true_iff.mp hon with ⟨htenant, hid⟩
  exact ⟨(beq_iff_eq.mp htenant).symm, (beq_iff_eq.mp hid).symm⟩

theorem mem_admittedIncidents {row : IncidentRow C}
    (h : row ∈ admittedIncidents db evaluation query result) :
    row ∈ bareIncidents db result ∧ query.Selects row.incident row.enrichment ∧
      evaluation.admits result.sql row = true := by
  rcases List.mem_filter.mp h with ⟨hrow, hkeeps⟩
  rcases Bool.and_eq_true_iff.mp hkeeps with ⟨hkeeps, hquery⟩
  rcases Bool.and_eq_true_iff.mp hkeeps with ⟨hscope, hadmits⟩
  exact ⟨hrow, selects_of_bare hrow hscope hquery, hadmits⟩

/-- A row reads like its incident with the alert that is joined. -/
theorem ReadsIncidentTables.admits (hreads : ReadsIncidentTables evaluation) (sql : String)
    (row : IncidentRow C) :
    evaluation.admits sql row = evaluation.admits sql { row with link := none } := by
  unfold Evaluation.admits
  rw [hreads.holds sql row { row with link := none } rfl]

theorem expands_admittedIncidents {tenantId : String} :
    Rows.Expands bareIncident (expandIncident db result tenantId)
      (admittedIncidents db evaluation query result) :=
  (expands_incidents tenantId).sublist List.filter_sublist

section Expanded

variable (hreads : ReadsIncidentTables evaluation)
  (hblind : BlindToAlerts (C := C) p celpy evaluation query)
  (hconvert : convert p celpy query.cel = .ok result)
  (hinvolved : involves "alert." result.involvedFields = true)

include hreads hblind hconvert hinvolved

theorem admits_expandIncident {row joined : IncidentRow C} (hrow : row ∈ bareIncidents db result)
    (hselects : query.Selects row.incident row.enrichment)
    (hjoined : joined ∈ expandIncident db result query.tenantId row) :
    evaluation.admits result.sql joined = evaluation.admits result.sql row := by
  rcases mem_expandIncident hrow hjoined with ⟨hwith, halerts⟩
  have hbare := (mem_bareIncidents hrow).2.2
  rw [hreads.admits, hwith]
  conv_rhs => rw [hbare]
  rcases halerts with ⟨hlast, halert⟩ | ⟨lastAlert, hlast, hown, hids⟩
  · rw [hlast, halert]
  · rw [hlast]
    exact (hblind result hconvert hinvolved row.incident row.enrichment hselects lastAlert
      joined.alert hown hids).1

/-- All rows of an admitted incident are kept, and no others. -/
theorem filter_fromIncident (hvalid : db.Valid) :
    (fromIncident db query.tenantId true (fetchesHasLinkedIncident result)).filter
        (query.keeps evaluation result.sql) =
      (admittedIncidents db evaluation query result).flatMap
        (expandIncident db result query.tenantId) := by
  rw [fromIncident_true hvalid]
  refine Rows.filter_flatMap_of fun row hrow joined hjoined => ?_
  unfold IncidentQuery.keeps
  rw [(expandIncident_shows hrow hjoined).1]
  cases hscope : row.incident.tenantId == query.tenantId && row.incident.isVisible with
  | false => rfl
  | true =>
      cases hquery : query.admits row.incident with
      | false => rw [Bool.and_false, Bool.and_false]
      | true =>
          rw [admits_expandIncident hreads hblind hconvert hinvolved hrow
            (selects_of_bare hrow hscope hquery) hjoined]

omit hreads hblind hconvert hinvolved in
/-- The list shows the admitted incidents, each once. -/
theorem kept_incidentListKey [DecidableEq C] [DecidableEq V]
    (hsorts : SortsByIncident evaluation query) :
    (Rows.kept (incidentListKey p evaluation query true)
        ((admittedIncidents db evaluation query result).flatMap
          (expandIncident db result query.tenantId))).map bareIncident =
      Rows.kept (incidentListKey p evaluation query true)
        (admittedIncidents db evaluation query result) := by
  refine expands_admittedIncidents.map_distinctOn fun row hadmitted joined hjoined => ?_
  rcases expandIncident_shows (mem_admittedIncidents hadmitted).1 hjoined with
    ⟨hincident, henrichment⟩
  have hvalues : query.distinctColumns.map (fun column => evaluation.value column joined) =
      query.distinctColumns.map fun column => evaluation.value column row :=
    List.map_congr_left fun column hcolumn =>
      hsorts column hcolumn joined row hincident henrichment
  simp only [hvalues, hincident, henrichment]

omit hreads in
theorem counts_distinct_incidents {row : IncidentRow C}
    (h : row ∈ admittedIncidents db evaluation query result) :
    query.cel.any (containsText "alert.") = true := by
  rcases mem_admittedIncidents h with ⟨hrow, hselects, hadmits⟩
  rw [(mem_bareIncidents hrow).2.2] at hadmits
  exact (hblind result hconvert hinvolved row.incident row.enrichment hselects
    ⟨query.tenantId, "", 0, 0, row.incident.columns⟩ none rfl (fun _ h => by cases h)).2 hadmits

omit hreads in
/-- The total counts the admitted incidents, each once. -/
theorem kept_incidentCountKey :
    (Rows.kept (incidentCountKey query)
        ((admittedIncidents db evaluation query result).flatMap
          (expandIncident db result query.tenantId))).length =
      (Rows.kept (incidentCountKey query)
        (admittedIncidents db evaluation query result)).length := by
  cases hadmitted : admittedIncidents db evaluation query result with
  | nil => rfl
  | cons row rest =>
      have hmem : row ∈ admittedIncidents db evaluation query result := by
        rw [hadmitted]
        exact List.mem_cons_self
      have hkey : incidentCountKey (C := C) query = some fun row => row.incident.id := by
        unfold incidentCountKey
        rw [counts_distinct_incidents hblind hconvert hinvolved hmem]
        rfl
      rw [← hadmitted, hkey]
      have hone : (Rows.distinctOn (fun row : IncidentRow C => row.incident.id)
          ((admittedIncidents db evaluation query result).flatMap
            (expandIncident db result query.tenantId))).map bareIncident =
          Rows.distinctOn (fun row => row.incident.id)
            (admittedIncidents db evaluation query result) :=
        expands_admittedIncidents.map_distinctOn fun row hadmitted joined hjoined =>
          congrArg Incident.id (expandIncident_shows (mem_admittedIncidents hadmitted).1 hjoined).1
      show (Rows.distinctOn _ _).length = (Rows.distinctOn _ _).length
      rw [← hone, List.length_map]

end Expanded

theorem getLastIncidentsByCel_of_rows [DecidableEq C] [DecidableEq V]
    {rows : List (IncidentRow C)} {fetchAlerts : Bool}
    (h : buildBaseIncidentQuery db p celpy evaluation query = .ok (rows, fetchAlerts)) :
    getLastIncidentsByCel p celpy evaluation query db =
      .ok (((Rows.kept (incidentListKey p evaluation query fetchAlerts) rows).map
          fun row => ⟨row.incident, row.enrichment⟩ : List (SelectedIncident C)),
        (Rows.kept (incidentCountKey query) rows).length) := by
  unfold getLastIncidentsByCel lastIncidents buildLastIncidentsTotalCountQuery
    buildLastIncidentsQuery
  rw [h]
  rfl

theorem getLastIncidentsByCel_of_blind [DecidableEq C] [DecidableEq V]
    (hreads : ReadsIncidentTables evaluation) (hsorts : SortsByIncident evaluation query)
    (hblind : BlindToAlerts (C := C) p celpy evaluation query)
    (hconvert : convert p celpy query.cel = .ok result) (hvalid : db.Valid) :
    getLastIncidentsByCel p celpy evaluation query db =
      .ok (((Rows.kept (incidentListKey p evaluation query
            (involves "alert." result.involvedFields))
          (admittedIncidents db evaluation query result)).map
            fun row => ⟨row.incident, row.enrichment⟩ : List (SelectedIncident C)),
        (Rows.kept (incidentCountKey query)
          (admittedIncidents db evaluation query result)).length) := by
  rw [getLastIncidentsByCel_of_rows (buildBaseIncidentQuery_of hconvert)]
  cases hinvolved : involves "alert." result.involvedFields with
  | false =>
      rw [fromIncident_false hvalid]
      rfl
  | true =>
      rw [filter_fromIncident hreads hblind hconvert hinvolved hvalid,
        kept_incidentCountKey hblind hconvert hinvolved, ← kept_incidentListKey hsorts,
        List.map_map]
      rfl

/-- Own incidents are all that the queries look at where the filter is blind to alerts. -/
theorem incidentsOwnLive_of_blind [DecidableEq C] [DecidableEq V]
    (hreads : ReadsIncidentTables evaluation) (hsorts : SortsByIncident evaluation query)
    (hblind : BlindToAlerts (C := C) p celpy evaluation query) :
    IncidentsOwnLive p celpy evaluation query := by
  intro db db' hvalid hvalid' hsame
  cases hconvert : convert p celpy query.cel with
  | error e =>
      have hfails : forall db : Database C,
          lastIncidents p celpy evaluation query db = .error e := by
        intro db
        unfold lastIncidents buildLastIncidentsTotalCountQuery buildBaseIncidentQuery
        rw [hconvert]
        rfl
      unfold getLastIncidentsByCel
      rw [hfails db, hfails db']
  | ok result =>
      rw [getLastIncidentsByCel_of_blind hreads hsorts hblind hconvert hvalid,
        getLastIncidentsByCel_of_blind hreads hsorts hblind hconvert hvalid',
        admittedIncidents_eq hsame]

end Blind

end Listing
end KeepGateway
