import KeepGateway.Listing.IncidentIsolation
import KeepGateway.Listing.SharedFingerprints
import KeepGateway.Listing.Totals

/-!
# Own live rows

A tenant with one incident, and the same tenant with links of the incident that are deleted.
With it, the queries for alerts and incidents are seen to depend on the tenant's own live rows
only where their filters are blind to what their joins let in.
-/

namespace KeepGateway
namespace Listing

open Cel (Celpy CelToSqlResult Dialect Failure PropertyMetadataInfo Provider)

variable {C V : Type}

/-!
## Deleted links of an incident
-/

section Databases

/-- A last alert and an incident, with links between them or without. -/
def linked (lastAlert : LastAlert C) (alert : Option (Alert C)) (incident : Incident C)
    (enrichment : Option (IncidentEnrichment C)) (links : List LastAlertToIncident) :
    Database C :=
  ⟨alert.toList, [lastAlert], links, incident :: pastIncidents incident, enrichment.toList⟩

variable {lastAlert : LastAlert C} {alert : Option (Alert C)} {incident : Incident C}
  {enrichment : Option (IncidentEnrichment C)} {links : List LastAlertToIncident}

theorem nodup_toList {α β : Type} (f : α -> β) (a : Option α) : (a.toList.map f).Nodup := by
  cases a with
  | none => exact List.nodup_nil
  | some a => exact List.nodup_singleton (f a)

theorem linked_valid
    (henriched : forall joined, enrichment = some joined ->
      joined.tenantId = incident.tenantId ∧ joined.incidentId = incident.id)
    (hlinks : DeletedLinks lastAlert incident links)
    (hids : forall link, link ∈ links -> link.incidentId = incident.id) :
    (linked lastAlert alert incident enrichment links).Valid where
  alerts := nodup_toList _ alert
  lastAlerts := List.nodup_singleton _
  links := hlinks.nodup
  incidents := nodup_pastIncidents incident
  enrichments := nodup_toList _ enrichment
  linkedAlerts := fun link hlink => ⟨lastAlert, List.mem_cons_self,
    (hlinks.tenantId link hlink).symm, (hlinks.fingerprint link hlink).symm⟩
  linkedIncidents := fun link hlink => ⟨incident, List.mem_cons_self, (hids link hlink).symm⟩
  pastIncidents := fun _ => exists_past
  enrichedIncidents := by
    intro joined hjoined
    have hincident := (henriched joined (Option.mem_toList.mp hjoined)).2
    exact ⟨incident, List.mem_cons_self, hincident.symm⟩

/-- The links are deleted, so the live rows are the same without them. -/
theorem sameLive_linked (tenantId : String) (hlinks : DeletedLinks lastAlert incident links) :
    SameLive tenantId (linked lastAlert alert incident enrichment [])
      (linked lastAlert alert incident enrichment links) where
  alerts := rfl
  lastAlerts := rfl
  links := by
    refine (List.filter_eq_nil_iff.mpr fun link hlink hlive => ?_).symm
    exact hlinks.deletedAt link hlink (beq_iff_eq.mp (Bool.and_eq_true_iff.mp hlive).2)
  incidents := rfl
  enrichments := rfl

end Databases

/-!
## Their rows
-/

section Rows

variable {lastAlert : LastAlert C} {alert : Option (Alert C)} {incident : Incident C}
  {enrichment : Option (IncidentEnrichment C)} {links : List LastAlertToIncident}

theorem joinLinkedAlerts_unlinked (tenantId : String) :
    joinLinkedAlerts (linked lastAlert alert incident enrichment []) tenantId
      [incidentRow incident] = [incidentRow incident] := by
  unfold joinLinkedAlerts
  simp only
  rw [Rows.leftJoin_of_filter_nil, List.map_singleton, Rows.leftJoin_of_filter_nil,
    List.map_singleton, Rows.leftJoin_of_filter_nil, List.map_singleton]
  · rfl
  · exact List.filter_eq_nil_iff.mpr fun _ _ => Bool.false_ne_true
  · refine List.filter_eq_nil_iff.mpr fun joined _ hon => ?_
    have hlinked := (Bool.and_eq_true_iff.mp hon).2
    cases hlinked
  · rfl

theorem joinLinkedAlerts_linked (hlast : lastAlert.tenantId = incident.tenantId)
    (halert : forall joined, alert = some joined -> joined.id = lastAlert.alertId)
    (hlinks : DeletedLinks lastAlert incident links)
    (hids : forall link, link ∈ links -> link.incidentId = incident.id) (hne : links ≠ []) :
    joinLinkedAlerts (linked lastAlert alert incident enrichment links) incident.tenantId
        [incidentRow incident] =
      links.map fun link =>
        { incidentRow incident with
          link := some link
          lastAlert := some lastAlert
          alert := alert } := by
  have hmatched : (linked lastAlert alert incident enrichment links).links.filter (fun link =>
      link.incidentId == (incidentRow incident).incident.id &&
        link.tenantId == incident.tenantId) = links := by
    refine List.filter_eq_self.mpr fun link hlink => ?_
    rw [hids link hlink, hlinks.tenantId link hlink, hlast]
    exact Bool.and_eq_true_iff.mpr ⟨beq_self_eq_true _, beq_self_eq_true _⟩
  unfold joinLinkedAlerts
  simp only
  rw [Rows.leftJoin_of_filter hmatched hne, List.map_map,
    @Rows.leftJoin_eq_map _ _ _ _ _ fun _ => some lastAlert, List.map_map, List.map_map,
    @Rows.leftJoin_eq_map _ _ _ _ _ fun _ => alert, List.map_map, List.map_map]
  · rfl
  · intro row hrow
    rcases List.mem_map.mp hrow with ⟨link, -, heq⟩
    rw [← heq]
    refine List.filter_eq_self.mpr fun joined hjoined => ?_
    have hid := halert joined (Option.mem_toList.mp hjoined)
    show (lastAlert.alertId == joined.id && lastAlert.tenantId == incident.tenantId) = true
    rw [hid, hlast, beq_self_eq_true, beq_self_eq_true]
    rfl
  · intro row hrow
    rcases List.mem_map.mp hrow with ⟨link, hlink, heq⟩
    rw [← heq]
    refine List.filter_eq_self.mpr fun joined hjoined => ?_
    rw [List.mem_singleton.mp hjoined]
    show (lastAlert.tenantId == incident.tenantId &&
      lastAlert.fingerprint == link.fingerprint) = true
    rw [hlinks.fingerprint link hlink, hlast, beq_self_eq_true, beq_self_eq_true]
    rfl

theorem enrichmentOf_linked
    (henriched : forall joined, enrichment = some joined ->
      joined.tenantId = incident.tenantId ∧ joined.incidentId = incident.id) :
    enrichmentOf (linked lastAlert alert incident enrichment links) incident = enrichment := by
  unfold enrichmentOf linked
  cases enrichment with
  | none => rfl
  | some joined =>
      rcases henriched joined rfl with ⟨htenant, hid⟩
      have hon : (incident.tenantId == joined.tenantId && incident.id == joined.incidentId) =
          true := by
        rw [htenant, hid, beq_self_eq_true, beq_self_eq_true]
        rfl
      exact List.find?_cons_of_pos hon

variable {evaluation : Evaluation (IncidentRow C) V} {query : IncidentQuery}
  {result : CelToSqlResult}

/-- The query keeps the rows of the incident that its filter admits. -/
theorem filter_linked (hselects : query.Selects incident enrichment)
    (hlinks : DeletedLinks lastAlert incident links)
    (hids : forall link, link ∈ links -> link.incidentId = incident.id) :
    (fromIncident (linked lastAlert alert incident enrichment links) query.tenantId true
        (fetchesHasLinkedIncident result)).filter (query.keeps evaluation result.sql) =
      ((joinLinkedAlerts (linked lastAlert alert incident enrichment links) query.tenantId
          [incidentRow incident]).map
        (decorate (linked lastAlert alert incident enrichment links) result)).filter
          (evaluation.admits result.sql) := by
  have hpast : ((pastIncidents incident).flatMap fun past =>
      expandIncident (linked lastAlert alert incident enrichment links) result query.tenantId
        (decorate (linked lastAlert alert incident enrichment links) result
          (incidentRow past))).filter (query.keeps evaluation result.sql) = [] := by
    refine List.filter_eq_nil_iff.mpr fun row hrow hkeeps => ?_
    rcases List.mem_flatMap.mp hrow with ⟨past, hpast, hrow⟩
    rcases List.mem_map.mp hrow with ⟨joined, hjoined, heq⟩
    have hshown : row.incident = past := by
      rw [← heq]
      exact (mem_joinLinkedAlerts_singleton hjoined).1.1
    unfold IncidentQuery.keeps at hkeeps
    rw [hshown, (mem_pastIncidents hpast).1, hselects.tenantId,
      beq_eq_false_iff_ne.mpr (otherTenant_ne query.tenantId)] at hkeeps
    cases hkeeps
  rw [fromIncident_true (linked_valid hselects.enriched hlinks hids)]
  unfold bareIncidents
  rw [List.flatMap_map]
  show (List.flatMap _ (incident :: pastIncidents incident)).filter _ = _
  rw [List.flatMap_cons, List.filter_append, hpast, List.append_nil]
  refine List.filter_congr fun row hrow => ?_
  rcases List.mem_map.mp hrow with ⟨joined, hjoined, heq⟩
  have hshown : row.incident = incident := by
    rw [← heq]
    exact (mem_joinLinkedAlerts_singleton hjoined).1.1
  unfold IncidentQuery.keeps
  rw [hshown, hselects.tenantId, hselects.isVisible, hselects.admits, beq_self_eq_true,
    Bool.and_true]
  rfl

theorem decorate_linked
    (henriched : forall joined, enrichment = some joined ->
      joined.tenantId = incident.tenantId ∧ joined.incidentId = incident.id)
    {row : IncidentRow C} (hrow : row.incident = incident) :
    decorate (linked lastAlert alert incident enrichment links) result row =
      { row with
        enrichment := enrichment
        hasLinkedIncident := hasLinkedIncident result incident } := by
  unfold decorate
  rw [hrow, enrichmentOf_linked henriched]

/-- The row of the incident with one of its links. -/
def linkedIncidentRow (result : CelToSqlResult) (lastAlert : LastAlert C)
    (alert : Option (Alert C)) (incident : Incident C)
    (enrichment : Option (IncidentEnrichment C)) (link : LastAlertToIncident) : IncidentRow C :=
  { incidentWith result incident enrichment (some lastAlert) alert with link := some link }

theorem admits_linkedIncidentRow (hreads : ReadsIncidentTables evaluation)
    (link : LastAlertToIncident) (sql : String) :
    evaluation.admits sql (linkedIncidentRow result lastAlert alert incident enrichment link) =
      evaluation.admits sql (incidentWith result incident enrichment (some lastAlert) alert) :=
  hreads.admits sql _

section Built

variable {p : Provider} {celpy : Celpy} (hconvert : convert p celpy query.cel = .ok result)
  (hinvolved : involves "alert." result.involvedFields = true)
  (hselects : query.Selects incident enrichment)

include hconvert hinvolved hselects

theorem built_unlinked (lastAlert : LastAlert C) (alert : Option (Alert C)) :
    buildBaseIncidentQuery (linked lastAlert alert incident enrichment []) p celpy evaluation
        query =
      .ok ([incidentWith result incident enrichment none none].filter
        (evaluation.admits result.sql), true) := by
  rw [buildBaseIncidentQuery_of hconvert, hinvolved,
    filter_linked hselects deletedLinks_nil fun _ h => absurd h List.not_mem_nil,
    joinLinkedAlerts_unlinked, List.map_singleton, decorate_linked hselects.enriched rfl]
  rfl

theorem built_linked (hlast : lastAlert.tenantId = query.tenantId)
    (halert : forall joined, alert = some joined -> joined.id = lastAlert.alertId)
    (hlinks : DeletedLinks lastAlert incident links)
    (hids : forall link, link ∈ links -> link.incidentId = incident.id) (hne : links ≠ []) :
    buildBaseIncidentQuery (linked lastAlert alert incident enrichment links) p celpy evaluation
        query =
      .ok ((links.map (linkedIncidentRow result lastAlert alert incident enrichment)).filter
        (evaluation.admits result.sql), true) := by
  rw [buildBaseIncidentQuery_of hconvert, hinvolved, filter_linked hselects hlinks hids,
    ← hselects.tenantId, joinLinkedAlerts_linked (hlast.trans hselects.tenantId.symm) halert
      hlinks hids hne, List.map_map]
  congr 3
  refine List.map_congr_left fun link _ => ?_
  exact decorate_linked hselects.enriched rfl

end Built

end Rows

/-!
## What the answers show
-/

section Answers

variable {p : Provider} {celpy : Celpy} {evaluation : Evaluation (IncidentRow C) V}
  {query : IncidentQuery} {result : CelToSqlResult} [DecidableEq C] [DecidableEq V]

section Linked

variable {lastAlert : LastAlert C} {alert : Option (Alert C)} {incident : Incident C}
  {enrichment : Option (IncidentEnrichment C)}
  (h : IncidentsOwnLive p celpy evaluation query)
  (hreads : ReadsIncidentTables evaluation)
  (hconvert : convert p celpy query.cel = .ok result)
  (hinvolved : involves "alert." result.involvedFields = true)
  (hselects : query.Selects incident enrichment) (hlast : lastAlert.tenantId = query.tenantId)
  (halert : forall joined, alert = some joined -> joined.id = lastAlert.alertId)

include h hconvert hinvolved hselects hlast halert

/-- As many rows are listed and counted. -/
theorem lengths_linked {links : List LastAlertToIncident}
    (hlinks : DeletedLinks lastAlert incident links)
    (hids : forall link, link ∈ links -> link.incidentId = incident.id) (hne : links ≠ []) :
    (Rows.kept (incidentListKey p evaluation query true)
          ([incidentWith result incident enrichment none none].filter
            (evaluation.admits result.sql))).length =
        (Rows.kept (incidentListKey p evaluation query true)
          ((links.map (linkedIncidentRow result lastAlert alert incident enrichment)).filter
            (evaluation.admits result.sql))).length ∧
      (Rows.kept (incidentCountKey query)
          ([incidentWith result incident enrichment none none].filter
            (evaluation.admits result.sql))).length =
        (Rows.kept (incidentCountKey query)
          ((links.map (linkedIncidentRow result lastAlert alert incident enrichment)).filter
            (evaluation.admits result.sql))).length := by
  have hunlinkedValid : (linked lastAlert alert incident enrichment []).Valid :=
    linked_valid hselects.enriched deletedLinks_nil fun _ h => absurd h List.not_mem_nil
  have hanswers := h _ _ hunlinkedValid (linked_valid hselects.enriched hlinks hids)
    (sameLive_linked query.tenantId hlinks)
  rw [getLastIncidentsByCel_of_rows (built_unlinked hconvert hinvolved hselects lastAlert alert),
    getLastIncidentsByCel_of_rows
      (built_linked hconvert hinvolved hselects hlast halert hlinks hids hne)] at hanswers
  rcases Prod.mk.inj (Except.ok.inj hanswers) with ⟨hlist, htotal⟩
  have hcard := congrArg Multiset.card hlist
  rw [Multiset.coe_card, Multiset.coe_card, List.length_map, List.length_map] at hcard
  exact ⟨hcard, htotal⟩

include hreads

theorem admits_eq_of_incidentsOwnLive :
    evaluation.admits result.sql
        (incidentWith result incident enrichment (some lastAlert) alert) =
      evaluation.admits result.sql (incidentWith result incident enrichment none none) := by
  have hids : forall link, link ∈ [deletedLink lastAlert incident.id 1] ->
      link.incidentId = incident.id := fun link hlink => by rw [List.mem_singleton.mp hlink]; rfl
  have hlengths := (lengths_linked h hconvert hinvolved hselects hlast halert deletedLinks_own
    hids (List.cons_ne_nil _ _)).1
  rw [List.map_singleton] at hlengths
  rw [← admits_linkedIncidentRow hreads (deletedLink lastAlert incident.id 1)]
  exact (Rows.eq_of_length_kept_filter hlengths).symm

theorem counts_of_incidentsOwnLive
    (hadmits : evaluation.admits result.sql
      (incidentWith result incident enrichment none none) = true) :
    query.cel.any (containsText "alert.") = true := by
  have hlinked := (admits_eq_of_incidentsOwnLive h hreads hconvert hinvolved hselects hlast
    halert).trans hadmits
  have hids : forall link, link ∈ [deletedLink lastAlert incident.id 2,
      deletedLink lastAlert incident.id 1] -> link.incidentId = incident.id := by
    intro link hlink
    rcases List.mem_pair.mp hlink with heq | heq
    · rw [heq]; rfl
    · rw [heq]; rfl
  have hlengths := (lengths_linked h hconvert hinvolved hselects hlast halert deletedLinks_twice
    hids (List.cons_ne_nil _ _)).2
  rw [Rows.length_kept_filter_singleton, hadmits, List.filter_eq_self.mpr] at hlengths
  · cases hdistinct : query.cel.any (containsText "alert.") with
    | true => rfl
    | false =>
        have hkey : incidentCountKey (C := C) query = none := by
          unfold incidentCountKey
          rw [hdistinct]
          rfl
        rw [hkey] at hlengths
        cases hlengths
  · intro row hrow
    rcases List.mem_map.mp hrow with ⟨link, -, heq⟩
    rw [← heq, admits_linkedIncidentRow hreads, hlinked]

end Linked

/-- The queries look at deleted links, or at the alerts of others, unless the filter is blind to
alerts. -/
theorem blind_of_incidentsOwnLive (hreads : ReadsIncidentTables evaluation)
    (h : IncidentsOwnLive (C := C) p celpy evaluation query) :
    BlindToAlerts (C := C) p celpy evaluation query := by
  intro result hconvert hinvolved incident enrichment hselects lastAlert alert hlast halert
  constructor
  · exact admits_eq_of_incidentsOwnLive h hreads hconvert hinvolved hselects hlast halert
  · exact counts_of_incidentsOwnLive h hreads hconvert hinvolved hselects hlast halert

end Answers

/-!
## All queries
-/

section Queries

variable [DecidableEq C] [DecidableEq V] (p : Provider) (celpy : Celpy) (hardLimit : Nat)
  (alertEvaluation : Evaluation (AlertRow C) V) (alertQuery : AlertQuery)
  (incidentEvaluation : Evaluation (IncidentRow C) V) (incidentQuery : IncidentQuery)

/-- The alerts, the incidents and both totals depend on the tenant's own live rows only. -/
structure OwnLiveRows : Prop where
  alerts : AlertsOwnLive p celpy alertEvaluation hardLimit alertQuery
  incidents : IncidentsOwnLive p celpy incidentEvaluation incidentQuery

/-- What is joined by way of deleted links or from others makes no difference. -/
structure BlindToJoins : Prop where
  alerts : BlindToIncidents (C := C) p celpy alertEvaluation alertQuery
  incidents : BlindToAlerts (C := C) p celpy incidentEvaluation incidentQuery

/-- The queries depend on own live rows only where the filters are blind to what is joined. -/
theorem ownLiveRows_iff (halerts : ReadsAlertTables alertEvaluation)
    (hincidents : ReadsIncidentTables incidentEvaluation)
    (hsorts : SortsByIncident incidentEvaluation incidentQuery) :
    OwnLiveRows p celpy hardLimit alertEvaluation alertQuery incidentEvaluation incidentQuery <->
      BlindToJoins p celpy alertEvaluation alertQuery incidentEvaluation incidentQuery := by
  constructor
  · intro h
    exact ⟨blind_of_alertsOwnLive halerts h.alerts,
      blind_of_incidentsOwnLive hincidents h.incidents⟩
  · intro h
    exact ⟨alertsOwnLive_of_blind halerts h.alerts,
      incidentsOwnLive_of_blind hincidents hsorts h.incidents⟩

end Queries

namespace OwnLiveSample

open TotalsSample

theorem readsAlertTables : ReadsAlertTables alertEvaluation where
  holds := fun _ _ _ _ _ hincident => congrArg Option.isSome hincident
  value := fun _ _ _ _ _ _ => rfl

theorem readsIncidentTables : ReadsIncidentTables incidentEvaluation where
  holds := fun _ _ _ _ => rfl

/-- The list of all alerts. -/
def allAlerts : AlertQuery := { alertQuery with cel := none }

/-- An alert that was linked to a firing incident. -/
def unlinked (links : List LastAlertToIncident) : Database Unit where
  alerts := [⟨1, "t", 5, ()⟩]
  lastAlerts := [⟨"t", "f", 1, 5, ()⟩]
  links := links
  incidents := [⟨1, "t", "firing", true, false, none, none, none, none, ()⟩]
  enrichments := []

def deleted : LastAlertToIncident := ⟨"t", "f", 1, 7⟩

theorem unlinked_valid {links : List LastAlertToIncident} (hlinks : links.Nodup)
    (h : forall link, link ∈ links -> link = deleted) : (unlinked links).Valid where
  alerts := List.nodup_singleton _
  lastAlerts := List.nodup_singleton _
  links := hlinks
  incidents := List.nodup_singleton _
  enrichments := List.nodup_nil
  linkedAlerts := by
    intro link hlink
    rw [h link hlink]
    exact ⟨_, List.mem_cons_self, rfl, rfl⟩
  linkedIncidents := by
    intro link hlink
    rw [h link hlink]
    exact ⟨_, List.mem_cons_self, rfl⟩
  pastIncidents := by
    intro incident hincident id hid
    rw [List.mem_singleton.mp hincident] at hid
    cases hid
  enrichedIncidents := fun _ h => absurd h List.not_mem_nil

theorem total_none :
    buildTotalAlertsQuery (unlinked []) provider celpy alertEvaluation 20000 alertQuery =
      .ok 0 := by
  rfl

theorem total_deleted :
    buildTotalAlertsQuery (unlinked [deleted]) provider celpy alertEvaluation 20000 alertQuery =
      .ok 1 := by
  rfl

end OwnLiveSample

open TotalsSample OwnLiveSample in
/-- Without a filter nothing is joined. -/
theorem allAlerts_ownLiveRows :
    OwnLiveRows provider celpy 20000 alertEvaluation allAlerts incidentEvaluation
      incidentQuery := by
  refine (ownLiveRows_iff provider celpy 20000 alertEvaluation allAlerts incidentEvaluation
    incidentQuery readsAlertTables readsIncidentTables fun _ _ _ _ _ _ => rfl).mpr ⟨?_, ?_⟩
  · intro result hconvert hinvolved
    cases hconvert
    cases hinvolved
  · intro result hconvert hinvolved
    cases hconvert
    cases hinvolved

open TotalsSample OwnLiveSample in
/-- A link that is deleted still makes an alert match a filter on incidents. -/
theorem deletedLink_not_ownLiveRows :
    ¬ forall (p : Provider) (celpy : Celpy) (hardLimit : Nat)
        (alertEvaluation : Evaluation (AlertRow Unit) Unit) (alertQuery : AlertQuery)
        (incidentEvaluation : Evaluation (IncidentRow Unit) Unit)
        (incidentQuery : IncidentQuery), ReadsAlertTables alertEvaluation ->
          ReadsIncidentTables incidentEvaluation ->
            SortsByIncident incidentEvaluation incidentQuery ->
              OwnLiveRows p celpy hardLimit alertEvaluation alertQuery incidentEvaluation
                incidentQuery := by
  intro h
  have hnone : (unlinked []).Valid :=
    unlinked_valid List.nodup_nil fun _ h => absurd h List.not_mem_nil
  have hdeleted : (unlinked [deleted]).Valid :=
    unlinked_valid (List.nodup_singleton _) fun _ h => List.mem_singleton.mp h
  have hsame : SameLive "t" (unlinked []) (unlinked [deleted]) := ⟨rfl, rfl, rfl, rfl, rfl⟩
  have htotals := ((h provider celpy 20000 alertEvaluation alertQuery incidentEvaluation
    incidentQuery readsAlertTables readsIncidentTables fun _ _ _ _ _ _ => rfl).alerts
      (unlinked []) (unlinked [deleted]) hnone hdeleted hsame).2
  rw [total_none, total_deleted] at htotals
  cases htotals

end Listing
end KeepGateway
