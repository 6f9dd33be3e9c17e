import KeepGateway.Listing.Queries
import KeepGateway.Lib.Except

/-!
# Reported totals

The number that a total query reports beside the number of rows that the list query
returns.  Both filter the same joined rows; what they count for one item is decided by the
text of the filter for the total, and by its fields for the list.
-/

namespace KeepGateway
namespace Listing

open Cel (Celpy CelToSqlResult Dialect Failure PropertyMetadataInfo Provider)

section Agreement

variable {C V : Type} {db : Database C} {p : Provider} {celpy : Celpy}

/-!
## Joined alerts
-/

theorem mem_joinAlerts {row : AlertRow C} (h : row ∈ joinAlerts db) :
    row.lastAlert ∈ db.lastAlerts ∧ row.alert ∈ db.alerts ∧
      row.alert.id = row.lastAlert.alertId := by
  rcases List.mem_map.mp h with ⟨pair, hpair, heq⟩
  rcases Rows.mem_join hpair with ⟨hlast, halert, hon⟩
  rcases Bool.and_eq_true_iff.mp hon with ⟨hid, _⟩
  rw [← heq]
  exact ⟨hlast, halert, beq_iff_eq.mp hid⟩

theorem mem_joinLinks {rows : List (AlertRow C)} {row : AlertRow C}
    (h : row ∈ joinLinks db rows) :
    exists before, before ∈ rows ∧ row.lastAlert = before.lastAlert ∧ row.alert = before.alert := by
  rcases List.mem_map.mp h with ⟨pair, hpair, heq⟩
  rw [← heq]
  exact ⟨pair.1, (Rows.mem_leftJoin hpair).1, rfl, rfl⟩

theorem mem_joinIncidents {rows : List (AlertRow C)} {row : AlertRow C}
    (h : row ∈ joinIncidents db rows) :
    exists before, before ∈ rows ∧ row.lastAlert = before.lastAlert ∧ row.alert = before.alert := by
  rcases List.mem_map.mp h with ⟨pair, hpair, heq⟩
  rw [← heq]
  exact ⟨pair.1, (Rows.mem_leftJoin hpair).1, rfl, rfl⟩

/-- Every joined row shows a last alert with its alert. -/
theorem mem_fromLastAlert {fetchIncidents : Bool} {row : AlertRow C}
    (h : row ∈ fromLastAlert db fetchIncidents) :
    row.lastAlert ∈ db.lastAlerts ∧ row.alert ∈ db.alerts ∧
      row.alert.id = row.lastAlert.alertId := by
  unfold fromLastAlert at h
  split at h
  · rcases mem_joinIncidents h with ⟨linked, hlinked, hlast, halert⟩
    rcases mem_joinLinks hlinked with ⟨joined, hjoined, hlast', halert'⟩
    rw [hlast, halert, hlast', halert']
    exact mem_joinAlerts hjoined
  · exact mem_joinAlerts h

section Alerts

variable {evaluation : Evaluation (AlertRow C) V} {hardLimit : Nat} {query : AlertQuery}

theorem buildQueryForFiltering_rows {rows : List (AlertRow C)} {fetchIncidents : Bool}
    (h : buildQueryForFiltering db p celpy evaluation hardLimit query =
      .ok (rows, fetchIncidents)) {row : AlertRow C} (hrow : row ∈ rows) :
    row ∈ fromLastAlert db fetchIncidents := by
  rcases bind_eq_ok.mp h with ⟨result, _, hrows⟩
  cases hrows
  exact (List.mem_filter.mp hrow).1

variable [DecidableEq C] [DecidableEq V]

/-- The total of the alerts is the length of their list where both queries tell the matching
rows apart alike. -/
theorem alertsTotal_iff :
    buildTotalAlertsQuery db p celpy evaluation hardLimit query =
        (buildAlertsQuery db p celpy evaluation hardLimit query).map List.length <->
      forall rows fetchIncidents,
        buildQueryForFiltering db p celpy evaluation hardLimit query =
            .ok (rows, fetchIncidents) ->
          Rows.ToldApartAlike (alertCountKey query)
            (alertListKey p evaluation query fetchIncidents) rows := by
  apply Rows.total_eq_length_iff
  intro rows fetchIncidents hbuilt c hc f hf a ha b hb hkeys
  have hrowa := (mem_fromLastAlert (buildQueryForFiltering_rows hbuilt ha)).2.2
  have hrowb := (mem_fromLastAlert (buildQueryForFiltering_rows hbuilt hb)).2.2
  unfold alertCountKey at hc
  unfold alertListKey at hf
  split at hc
  · cases hc
    split at hf
    · cases hf
      have hid : a.alert.id = b.alert.id := congrArg (fun key => key.2.1) hkeys
      show a.lastAlert.alertId = b.lastAlert.alertId
      rw [← hrowa, ← hrowb, hid]
    · cases hf
  · cases hc

end Alerts

/-!
## Incidents
-/

section Incidents

variable {evaluation : Evaluation (IncidentRow C) V} {query : IncidentQuery}
variable [DecidableEq C] [DecidableEq V]

theorem incidentsTotal_iff :
    buildLastIncidentsTotalCountQuery db p celpy evaluation query =
        (buildLastIncidentsQuery db p celpy evaluation query).map List.length <->
      forall rows fetchAlerts,
        buildBaseIncidentQuery db p celpy evaluation query = .ok (rows, fetchAlerts) ->
          Rows.ToldApartAlike (incidentCountKey query)
            (incidentListKey p evaluation query fetchAlerts) rows := by
  apply Rows.total_eq_length_iff
  intro rows fetchAlerts _ c hc f hf a _ b _ hkeys
  unfold incidentCountKey at hc
  unfold incidentListKey at hf
  split at hc
  · cases hc
    split at hf
    · cases hf
      have hid := congrArg (fun key => key.2.1) hkeys
      revert hid
      cases p.dialect <;> exact fun hid => hid
    · cases hf
  · cases hc

end Incidents

/-!
## Paths with dots

Where the text holds the prefix exactly when a field has it, both queries tell items apart.
-/

/-- The keys that the tables are looked up by. -/
structure Database.UniqueKeys (db : Database C) : Prop where
  alert : forall a, a ∈ db.alerts -> forall b, b ∈ db.alerts -> a.id = b.id -> a = b
  lastAlert : forall a, a ∈ db.lastAlerts -> forall b, b ∈ db.lastAlerts ->
    a.alertId = b.alertId -> a = b
  incident : forall a, a ∈ db.incidents -> forall b, b ∈ db.incidents -> a.id = b.id -> a = b
  enrichment : forall a, a ∈ db.enrichments -> forall b, b ∈ db.enrichments ->
    a.incidentId = b.incidentId -> a = b

theorem toldApartAlike_alerts {evaluation : Evaluation (AlertRow C) V} {hardLimit : Nat}
    {query : AlertQuery} {rows : List (AlertRow C)} {fetchIncidents : Bool}
    (hkeys : db.UniqueKeys)
    (hsort : forall column, column ∈ query.distinctColumns -> forall a b : AlertRow C,
      a.lastAlert = b.lastAlert -> a.alert = b.alert ->
        evaluation.value column a = evaluation.value column b)
    (hbuilt : buildQueryForFiltering db p celpy evaluation hardLimit query =
      .ok (rows, fetchIncidents))
    (hspelling : query.cel.any (containsText "incident.") = fetchIncidents) :
    Rows.ToldApartAlike (alertCountKey query)
      (alertListKey p evaluation query fetchIncidents) rows := by
  unfold alertCountKey alertListKey
  rw [hspelling]
  cases fetchIncidents with
  | false => exact trivial
  | true =>
      intro a ha b hb hcount
      rcases mem_fromLastAlert (buildQueryForFiltering_rows hbuilt ha) with ⟨hlasta, halerta, hida⟩
      rcases mem_fromLastAlert (buildQueryForFiltering_rows hbuilt hb) with ⟨hlastb, halertb, hidb⟩
      have hlast := hkeys.lastAlert _ hlasta _ hlastb hcount
      have hid : a.alert.id = b.alert.id := by rw [hida, hidb, hlast]
      have halert := hkeys.alert _ halerta _ halertb hid
      have hvalues : query.distinctColumns.map (fun column => evaluation.value column a) =
          query.distinctColumns.map fun column => evaluation.value column b := by
        apply List.map_congr_left
        intro column hcolumn
        exact hsort column hcolumn a b hlast halert
      simp only [hvalues, hlast, halert]

/-- What the joins of the incidents query leave of a row: its incident, and the enrichment
that goes with it. -/
structure ShowsIncident (db : Database C) (row : IncidentRow C) : Prop where
  incident : row.incident ∈ db.incidents
  enriched : forall enrichment, row.enrichment = some enrichment ->
    enrichment ∈ db.enrichments ∧ row.incident.tenantId = enrichment.tenantId ∧
      row.incident.id = enrichment.incidentId
  plain : row.enrichment = none -> forall enrichment, enrichment ∈ db.enrichments ->
    ¬ (row.incident.tenantId = enrichment.tenantId ∧ row.incident.id = enrichment.incidentId)

theorem mem_joinLinkedAlerts {tenantId : String} {rows : List (IncidentRow C)}
    {row : IncidentRow C} (h : row ∈ joinLinkedAlerts db tenantId rows) :
    exists before, before ∈ rows ∧ row.incident = before.incident := by
  rcases List.mem_map.mp h with ⟨third, hthird, hrow⟩
  rcases List.mem_map.mp (Rows.mem_leftJoin hthird).1 with ⟨second, hsecond, heq⟩
  rcases List.mem_map.mp (Rows.mem_leftJoin hsecond).1 with ⟨first, hfirst, heq'⟩
  refine ⟨first.1, (Rows.mem_leftJoin hfirst).1, ?_⟩
  rw [← hrow, ← heq, ← heq']

theorem showsIncident_joinEnrichments {rows : List (IncidentRow C)}
    (hrows : forall row, row ∈ rows -> row.incident ∈ db.incidents) {row : IncidentRow C}
    (h : row ∈ joinEnrichments db rows) : ShowsIncident db row := by
  rcases List.mem_map.mp h with ⟨pair, hpair, hrow⟩
  rcases Rows.mem_leftJoin hpair with ⟨hmem, hsome, hnone⟩
  rw [← hrow]
  refine ⟨hrows pair.1 hmem, ?_, ?_⟩
  · intro enrichment henrichment
    rcases hsome enrichment henrichment with ⟨hin, hon⟩
    rcases Bool.and_eq_true_iff.mp hon with ⟨htenant, hid⟩
    exact ⟨hin, beq_iff_eq.mp htenant, beq_iff_eq.mp hid⟩
  · rintro henrichment enrichment hin ⟨htenant, hid⟩
    have hon := hnone henrichment enrichment hin
    rw [htenant, hid, beq_self_eq_true, beq_self_eq_true] at hon
    cases hon

theorem showsIncident_fromIncident {tenantId : String} {fetchAlerts fetchHasLinkedIncident : Bool}
    {row : IncidentRow C}
    (h : row ∈ fromIncident db tenantId fetchAlerts fetchHasLinkedIncident) :
    ShowsIncident db row := by
  have hincidents : forall row, row ∈ db.incidents.map incidentRow ->
      row.incident ∈ db.incidents := by
    intro row hrow
    rcases List.mem_map.mp hrow with ⟨incident, hincident, heq⟩
    rw [← heq]
    exact hincident
  have hjoined : forall row, row ∈ joinEnrichments db
      (if fetchAlerts then joinLinkedAlerts db tenantId (db.incidents.map incidentRow)
        else db.incidents.map incidentRow) -> ShowsIncident db row := by
    intro row hrow
    cases fetchAlerts with
    | false => exact showsIncident_joinEnrichments hincidents hrow
    | true =>
        refine showsIncident_joinEnrichments ?_ hrow
        intro other hother
        rcases mem_joinLinkedAlerts hother with ⟨before, hbefore, hincident⟩
        rw [hincident]
        exact hincidents before hbefore
  unfold fromIncident at h
  simp only at h
  split at h
  · rcases List.mem_map.mp h with ⟨pair, hpair, hrow⟩
    have hshows := hjoined _ (Rows.mem_join hpair).1
    rw [← hrow]
    exact ⟨hshows.incident, hshows.enriched, hshows.plain⟩
  · exact hjoined _ h

/-- An incident is shown with one enrichment. -/
theorem ShowsIncident.enrichment_eq (hkeys : db.UniqueKeys) {a b : IncidentRow C}
    (ha : ShowsIncident db a) (hb : ShowsIncident db b) (hincident : a.incident = b.incident) :
    a.enrichment = b.enrichment := by
  cases hea : a.enrichment with
  | none =>
      cases heb : b.enrichment with
      | none => rfl
      | some enrichment =>
          rcases hb.enriched enrichment heb with ⟨hin, hon⟩
          rw [← hincident] at hon
          exact (ha.plain hea enrichment hin hon).elim
  | some enrichment =>
      rcases ha.enriched enrichment hea with ⟨hin, hon⟩
      cases heb : b.enrichment with
      | none =>
          rw [hincident] at hon
          exact (hb.plain heb enrichment hin hon).elim
      | some other =>
          rcases hb.enriched other heb with ⟨hin', hon'⟩
          have hid : enrichment.incidentId = other.incidentId := by
            rw [← hon.2, ← hon'.2, hincident]
          rw [hkeys.enrichment _ hin _ hin' hid]

theorem toldApartAlike_incidents {evaluation : Evaluation (IncidentRow C) V}
    {query : IncidentQuery} {rows : List (IncidentRow C)} {fetchAlerts : Bool}
    (hkeys : db.UniqueKeys)
    (hsort : forall column, column ∈ query.distinctColumns -> forall a b : IncidentRow C,
      a.incident = b.incident -> a.enrichment = b.enrichment ->
        evaluation.value column a = evaluation.value column b)
    (hbuilt : buildBaseIncidentQuery db p celpy evaluation query = .ok (rows, fetchAlerts))
    (hspelling : query.cel.any (containsText "alert.") = fetchAlerts) :
    Rows.ToldApartAlike (incidentCountKey query)
      (incidentListKey p evaluation query fetchAlerts) rows := by
  have hshows : forall row, row ∈ rows -> ShowsIncident db row := by
    intro row hrow
    rcases bind_eq_ok.mp hbuilt with ⟨result, _, hrows⟩
    cases hrows
    exact showsIncident_fromIncident (List.mem_filter.mp hrow).1
  unfold incidentCountKey incidentListKey
  rw [hspelling]
  cases fetchAlerts with
  | false => exact trivial
  | true =>
      intro a ha b hb hcount
      have hincident := hkeys.incident _ (hshows a ha).incident _ (hshows b hb).incident hcount
      have henrichment := (hshows a ha).enrichment_eq hkeys (hshows b hb) hincident
      have hvalues : query.distinctColumns.map (fun column => evaluation.value column a) =
          query.distinctColumns.map fun column => evaluation.value column b := by
        apply List.map_congr_left
        intro column hcolumn
        exact hsort column hcolumn a b hincident henrichment
      cases p.dialect <;> simp only [hvalues, hincident, henrichment]

/-!
## Both totals
-/

section Totals

variable [DecidableEq C] [DecidableEq V]
variable (db p celpy) (hardLimit : Nat)
variable (alertEvaluation : Evaluation (AlertRow C) V) (alertQuery : AlertQuery)
variable (incidentEvaluation : Evaluation (IncidentRow C) V) (incidentQuery : IncidentQuery)

/-- The totals are the numbers of rows listed. -/
structure TotalsAgree : Prop where
  alerts : buildTotalAlertsQuery db p celpy alertEvaluation hardLimit alertQuery =
    (buildAlertsQuery db p celpy alertEvaluation hardLimit alertQuery).map List.length
  incidents : buildLastIncidentsTotalCountQuery db p celpy incidentEvaluation incidentQuery =
    (buildLastIncidentsQuery db p celpy incidentEvaluation incidentQuery).map List.length

/-- The matching rows are told apart alike.  The total tells items apart where the text holds
the prefix, and the list where a field has it; rows that are not told apart by one of them
must be by neither. -/
structure CountedAlike : Prop where
  alerts : forall rows fetchIncidents,
    buildQueryForFiltering db p celpy alertEvaluation hardLimit alertQuery =
        .ok (rows, fetchIncidents) ->
      Rows.ToldApartAlike (alertCountKey alertQuery)
        (alertListKey p alertEvaluation alertQuery fetchIncidents) rows
  incidents : forall rows fetchAlerts,
    buildBaseIncidentQuery db p celpy incidentEvaluation incidentQuery = .ok (rows, fetchAlerts) ->
      Rows.ToldApartAlike (incidentCountKey incidentQuery)
        (incidentListKey p incidentEvaluation incidentQuery fetchAlerts) rows

theorem totalsAgree_iff :
    TotalsAgree db p celpy hardLimit alertEvaluation alertQuery incidentEvaluation
        incidentQuery <->
      CountedAlike db p celpy hardLimit alertEvaluation alertQuery incidentEvaluation
        incidentQuery := by
  constructor
  · intro h
    exact ⟨alertsTotal_iff.mp h.alerts, incidentsTotal_iff.mp h.incidents⟩
  · intro h
    exact ⟨alertsTotal_iff.mpr h.alerts, incidentsTotal_iff.mpr h.incidents⟩

/-- The text of a filter holds the prefix exactly when the prefix is that of a field. -/
def SpelledWithDots (text : String) (cel : Option String) : Prop :=
  forall result, convert p celpy cel = .ok result ->
    cel.any (containsText text) = involves text result.involvedFields

/-- The totals are right where paths are spelled with dots: over tables with unique keys, and
for sort columns that depend on the item alone. -/
theorem totalsAgree_of_dots {db : Database C} {alertQuery : AlertQuery}
    {incidentQuery : IncidentQuery} (hkeys : db.UniqueKeys)
    (halertSort : forall column, column ∈ alertQuery.distinctColumns -> forall a b : AlertRow C,
      a.lastAlert = b.lastAlert -> a.alert = b.alert ->
        alertEvaluation.value column a = alertEvaluation.value column b)
    (hincidentSort : forall column, column ∈ incidentQuery.distinctColumns ->
      forall a b : IncidentRow C, a.incident = b.incident -> a.enrichment = b.enrichment ->
        incidentEvaluation.value column a = incidentEvaluation.value column b)
    (halertDots : SpelledWithDots p celpy "incident." alertQuery.cel)
    (hincidentDots : SpelledWithDots p celpy "alert." incidentQuery.cel) :
    TotalsAgree db p celpy hardLimit alertEvaluation alertQuery incidentEvaluation
      incidentQuery := by
  constructor
  · refine alertsTotal_iff.mpr ?_
    intro rows fetchIncidents hbuilt
    rcases bind_eq_ok.mp hbuilt with ⟨result, hresult, hrows⟩
    cases hrows
    exact toldApartAlike_alerts hkeys halertSort hbuilt (halertDots result hresult)
  · refine incidentsTotal_iff.mpr ?_
    intro rows fetchAlerts hbuilt
    rcases bind_eq_ok.mp hbuilt with ⟨result, hresult, hrows⟩
    cases hrows
    exact toldApartAlike_incidents hkeys hincidentSort hbuilt (hincidentDots result hresult)

end Totals

end Agreement

namespace TotalsSample

open Cel (Tree)

def metadata : Cel.PropertiesMetadata :=
  .ofConfigurations [⟨"incident.name",
    ["incident.user_generated_name", "incident.ai_generated_name"], some .string, []⟩]

def provider : Provider := ⟨Cel.asciiRuntime, .postgresql, id, metadata⟩

def unary (t : Tree .member) : Tree .addition := .additionOne (.multiplicationOne (.unaryOne t))

/-- `incident["name"] == 'x'` -/
def tree : Tree .expr :=
  .ofRelation (.relation .eq
    (.relationOne (unary (.memberIndex (.memberPrimary (.ident "incident"))
      (.ofLiteral "\"name\""))))
    (unary (.memberPrimary (.literal "'x'"))))

def celpy : Celpy where
  parse := fun _ => .ok tree
  str := fun _ => ""

/-- One alert that is linked to two firing incidents. -/
def db : Database Unit where
  alerts := [⟨1, "t", 5, ()⟩]
  lastAlerts := [⟨"t", "f", 1, 5, ()⟩]
  links := [⟨"t", "f", 1, 0⟩, ⟨"t", "f", 2, 0⟩]
  incidents := [⟨1, "t", "firing", true, false, none, none, none, none, ()⟩,
    ⟨2, "t", "firing", true, false, none, none, none, none, ()⟩]
  enrichments := []

def alertEvaluation : Evaluation (AlertRow Unit) Unit where
  holds := fun _ row => row.incident.isSome
  value := fun _ _ => ()

def incidentEvaluation : Evaluation (IncidentRow Unit) Unit where
  holds := fun _ _ => true
  value := fun _ _ => ()

def alertQuery : AlertQuery where
  tenantId := "t"
  cel := some "incident[\"name\"] == 'x'"
  distinctColumns := ["lastalert.timestamp"]

def incidentQuery : IncidentQuery where
  tenantId := "t"
  cel := none
  isCandidate := false
  isPredicted := none
  allowedIncidentIds := []
  startedSince := none
  upperTimestamp := none
  lowerTimestamp := none
  distinctColumns := ["incident.creation_time"]

theorem total_two :
    buildTotalAlertsQuery db provider celpy alertEvaluation 20000 alertQuery = .ok 2 := by
  rfl

theorem listed_one :
    (buildAlertsQuery db provider celpy alertEvaluation 20000 alertQuery).map List.length =
      .ok 1 := by
  rfl

/-- `incident.name == 'x'`, with the tree of the other spelling. -/
def dottedQuery : AlertQuery := { alertQuery with cel := some "incident.name == 'x'" }

theorem uniqueKeys_db : db.UniqueKeys where
  alert := by simp [db]
  lastAlert := by simp [db]
  incident := by simp [db]
  enrichment := by simp [db]

theorem dottedQuery_totalsAgree :
    TotalsAgree db provider celpy 20000 alertEvaluation dottedQuery incidentEvaluation
      incidentQuery := by
  apply totalsAgree_of_dots _ _ _ _ _ uniqueKeys_db (fun _ _ _ _ _ _ => rfl)
    (fun _ _ _ _ _ _ => rfl)
  · intro result hresult
    have hconverted : convert provider celpy dottedQuery.cel = .ok _ := rfl
    cases hconverted.symm.trans hresult
    rfl
  · intro result hresult
    have hconverted : convert provider celpy incidentQuery.cel = .ok _ := rfl
    cases hconverted.symm.trans hresult
    rfl

end TotalsSample

open TotalsSample in
/-- A path in brackets joins the incidents, but the total does not look for it. -/
theorem bracketPath_counted_twice :
    ¬ forall (db : Database Unit) (p : Provider) (celpy : Celpy) (hardLimit : Nat)
        (alertEvaluation : Evaluation (AlertRow Unit) Unit) (alertQuery : AlertQuery)
        (incidentEvaluation : Evaluation (IncidentRow Unit) Unit)
        (incidentQuery : IncidentQuery),
      TotalsAgree db p celpy hardLimit alertEvaluation alertQuery incidentEvaluation
        incidentQuery := by
  intro h
  have hagree := (h db provider celpy 20000 alertEvaluation alertQuery incidentEvaluation
    incidentQuery).alerts
  rw [total_two, listed_one] at hagree
  cases hagree

end Listing
end KeepGateway
