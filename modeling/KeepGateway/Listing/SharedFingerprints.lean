import KeepGateway.Listing.AlertIsolation

/-!
# Shared fingerprints

A tenant with one alert, and the same tenant beside another that uses the fingerprint of the
alert.  The other tenant links the fingerprint to a firing incident of its own, which lets the
links that the first tenant deleted show incidents.
-/

namespace KeepGateway
namespace Listing

open Cel (Celpy CelToSqlResult Dialect Failure PropertyMetadataInfo Provider)

variable {C V : Type}

/-!
## Two databases
-/

def otherTenant (tenantId : String) : String := tenantId ++ "'"

theorem otherTenant_ne (tenantId : String) : otherTenant tenantId ≠ tenantId := by
  intro h
  have hlength := congrArg String.length h
  unfold otherTenant at hlength
  rw [String.length_append] at hlength
  exact absurd hlength (Nat.succ_ne_self _)

theorem beq_otherTenant (tenantId : String) : (tenantId == otherTenant tenantId) = false :=
  beq_eq_false_iff_ne.mpr (otherTenant_ne tenantId).symm

/-- What an incident refers to, as an incident of another tenant. -/
def pastIncidents (incident : Incident C) : List (Incident C) :=
  match incident.sameIncidentInThePastId with
  | none => []
  | some id =>
      if id = incident.id then []
      else
        [{ incident with
            id := id
            tenantId := otherTenant incident.tenantId
            sameIncidentInThePastId := none }]

theorem mem_pastIncidents {incident past : Incident C} (h : past ∈ pastIncidents incident) :
    past.tenantId = otherTenant incident.tenantId ∧ past.id ≠ incident.id ∧
      past.sameIncidentInThePastId = none ∧
        incident.sameIncidentInThePastId = some past.id := by
  unfold pastIncidents at h
  split at h
  · cases h
  · rename_i id hid
    split at h
    · cases h
    · rename_i hne
      rw [List.mem_singleton.mp h]
      exact ⟨rfl, hne, rfl, hid⟩

theorem exists_pastIncident {incident : Incident C} {id : Nat}
    (h : incident.sameIncidentInThePastId = some id) :
    exists past, past ∈ incident :: pastIncidents incident ∧ past.id = id := by
  unfold pastIncidents
  rw [h]
  rcases Classical.em (id = incident.id) with heq | hne
  · exact ⟨incident, List.mem_cons_self, heq.symm⟩
  · simp only [if_neg hne]
    exact ⟨_, List.mem_cons_of_mem _ List.mem_cons_self, rfl⟩

theorem nodup_pastIncidents (incident : Incident C) :
    ((incident :: pastIncidents incident).map Incident.id).Nodup := by
  refine List.nodup_cons.mpr ⟨fun h => ?_, ?_⟩
  · rcases List.mem_map.mp h with ⟨past, hpast, hid⟩
    exact (mem_pastIncidents hpast).2.1 hid
  · unfold pastIncidents
    split
    · exact List.nodup_nil
    · split
      · exact List.nodup_nil
      · exact List.nodup_singleton _

/-- A key that neither an incident nor what it refers to has. -/
def freshId (incident : Incident C) : Nat :=
  incident.id + incident.sameIncidentInThePastId.getD 0 + 1

theorem freshId_ne {incident other : Incident C}
    (h : other ∈ incident :: pastIncidents incident) : other.id ≠ freshId incident := by
  unfold freshId
  rcases List.mem_cons.mp h with heq | hpast
  · rw [heq]
    omega
  · rw [(mem_pastIncidents hpast).2.2.2, Option.getD_some]
    omega

section Databases

variable (lastAlert : LastAlert C) (alert : Alert C) (incident : Incident C)

/-- The last alert of another tenant with the same fingerprint. -/
def sharingAlert : LastAlert C := { lastAlert with tenantId := otherTenant lastAlert.tenantId }

/-- The firing incident of the other tenant. -/
def sharingIncident : Incident C :=
  { incident with
    id := freshId incident
    tenantId := otherTenant lastAlert.tenantId
    status := "firing"
    sameIncidentInThePastId := none }

def sharingLink : LastAlertToIncident :=
  ⟨otherTenant lastAlert.tenantId, lastAlert.fingerprint, freshId incident, nullForDeletedAt⟩

/-- A link of the alert that was deleted some time ago. -/
def deletedLink (incidentId deletedAt : Nat) : LastAlertToIncident :=
  ⟨lastAlert.tenantId, lastAlert.fingerprint, incidentId, deletedAt⟩

/-- One alert and an incident that it is not linked to. -/
def alone : Database C :=
  ⟨[alert], [lastAlert], [], incident :: pastIncidents incident, []⟩

/-- The same beside the other tenant, with links that are deleted. -/
def shared (links : List LastAlertToIncident) : Database C :=
  ⟨[alert], [lastAlert, sharingAlert lastAlert], links ++ [sharingLink lastAlert incident],
    sharingIncident lastAlert incident :: incident :: pastIncidents incident, []⟩

/-- Deleted links of the alert, to the incident or to that of the other tenant. -/
structure DeletedLinks (links : List LastAlertToIncident) : Prop where
  nodup : links.Nodup
  tenantId : forall link, link ∈ links -> link.tenantId = lastAlert.tenantId
  fingerprint : forall link, link ∈ links -> link.fingerprint = lastAlert.fingerprint
  deletedAt : forall link, link ∈ links -> link.deletedAt ≠ nullForDeletedAt
  incidentId : forall link, link ∈ links ->
    link.incidentId = incident.id ∨ link.incidentId = freshId incident

variable {lastAlert alert incident}

theorem deletedLinks_nil : DeletedLinks lastAlert incident [] where
  nodup := List.nodup_nil
  tenantId := fun _ h => absurd h List.not_mem_nil
  fingerprint := fun _ h => absurd h List.not_mem_nil
  deletedAt := fun _ h => absurd h List.not_mem_nil
  incidentId := fun _ h => absurd h List.not_mem_nil

theorem DeletedLinks.cons {links : List LastAlertToIncident} {incidentId deletedAt : Nat}
    (hid : incidentId = incident.id ∨ incidentId = freshId incident)
    (hdeleted : deletedAt ≠ nullForDeletedAt)
    (hnew : deletedLink lastAlert incidentId deletedAt ∉ links)
    (h : DeletedLinks lastAlert incident links) :
    DeletedLinks lastAlert incident (deletedLink lastAlert incidentId deletedAt :: links) where
  nodup := List.nodup_cons.mpr ⟨hnew, h.nodup⟩
  tenantId := List.forall_mem_cons.mpr ⟨rfl, h.tenantId⟩
  fingerprint := List.forall_mem_cons.mpr ⟨rfl, h.fingerprint⟩
  deletedAt := List.forall_mem_cons.mpr ⟨hdeleted, h.deletedAt⟩
  incidentId := List.forall_mem_cons.mpr ⟨hid, h.incidentId⟩

theorem deletedLinks_own :
    DeletedLinks lastAlert incident [deletedLink lastAlert incident.id 1] :=
  deletedLinks_nil.cons (.inl rfl) Nat.one_ne_zero List.not_mem_nil

/-- A link may have been deleted more than once. -/
theorem deletedLinks_twice : DeletedLinks lastAlert incident
    [deletedLink lastAlert incident.id 2, deletedLink lastAlert incident.id 1] := by
  refine deletedLinks_own.cons (.inl rfl) (Nat.succ_ne_zero 1) fun hmem => ?_
  have hdeleted := congrArg LastAlertToIncident.deletedAt (List.mem_singleton.mp hmem)
  cases hdeleted

/-- No incident refers to one that is missing. -/
theorem exists_past {other : Incident C} (h : other ∈ incident :: pastIncidents incident)
    (id : Nat) (hid : other.sameIncidentInThePastId = some id) :
    exists past, past ∈ incident :: pastIncidents incident ∧ past.id = id := by
  rcases List.mem_cons.mp h with heq | hpast
  · rw [heq] at hid
    exact exists_pastIncident hid
  · rw [(mem_pastIncidents hpast).2.2.1] at hid
    cases hid

theorem alone_valid : (alone lastAlert alert incident).Valid where
  alerts := List.nodup_singleton _
  lastAlerts := List.nodup_singleton _
  links := List.nodup_nil
  incidents := nodup_pastIncidents incident
  enrichments := List.nodup_nil
  linkedAlerts := fun _ h => absurd h List.not_mem_nil
  linkedIncidents := fun _ h => absurd h List.not_mem_nil
  pastIncidents := fun _ => exists_past
  enrichedIncidents := fun _ h => absurd h List.not_mem_nil

variable {links : List LastAlertToIncident}

theorem mem_shared_links {link : LastAlertToIncident}
    (h : link ∈ (shared lastAlert alert incident links).links) :
    link ∈ links ∨ link = sharingLink lastAlert incident := by
  rcases List.mem_append.mp h with hown | hother
  · exact .inl hown
  · exact .inr (List.mem_singleton.mp hother)

theorem shared_valid (hlinks : DeletedLinks lastAlert incident links) :
    (shared lastAlert alert incident links).Valid where
  alerts := List.nodup_singleton _
  lastAlerts := by
    refine List.nodup_cons.mpr ⟨fun h => ?_, List.nodup_singleton _⟩
    have htenant := congrArg Prod.fst (List.mem_singleton.mp h)
    exact otherTenant_ne lastAlert.tenantId htenant.symm
  links := by
    refine List.Nodup.append hlinks.nodup (List.nodup_singleton _) fun link hown hother => ?_
    refine hlinks.deletedAt link hown ?_
    rw [List.mem_singleton.mp hother]
    rfl
  incidents := by
    refine List.nodup_cons.mpr ⟨fun h => ?_, nodup_pastIncidents incident⟩
    rcases List.mem_map.mp h with ⟨other, hother, hid⟩
    exact freshId_ne hother hid
  enrichments := List.nodup_nil
  linkedAlerts := by
    intro link hlink
    rcases mem_shared_links hlink with hown | hother
    · exact ⟨lastAlert, List.mem_cons_self, (hlinks.tenantId link hown).symm,
        (hlinks.fingerprint link hown).symm⟩
    · refine ⟨sharingAlert lastAlert, List.mem_cons_of_mem _ List.mem_cons_self, ?_⟩
      rw [hother]
      exact ⟨rfl, rfl⟩
  linkedIncidents := by
    intro link hlink
    have hid : link.incidentId = incident.id ∨ link.incidentId = freshId incident := by
      rcases mem_shared_links hlink with hown | hother
      · exact hlinks.incidentId link hown
      · rw [hother]
        exact .inr rfl
    rcases hid with hid | hid
    · exact ⟨incident, List.mem_cons_of_mem _ List.mem_cons_self, hid.symm⟩
    · exact ⟨sharingIncident lastAlert incident, List.mem_cons_self, hid.symm⟩
  pastIncidents := by
    intro other hother id hid
    rcases List.mem_cons.mp hother with heq | hmem
    · rw [heq] at hid
      cases hid
    · rcases exists_past hmem id hid with ⟨past, hpast, heq⟩
      exact ⟨past, List.mem_cons_of_mem _ hpast, heq⟩
  enrichedIncidents := fun _ h => absurd h List.not_mem_nil

/-- The tenant has the same live rows in both. -/
theorem sameLive_shared (hlinks : DeletedLinks lastAlert incident links) :
    SameLive lastAlert.tenantId (alone lastAlert alert incident)
      (shared lastAlert alert incident links) where
  alerts := rfl
  lastAlerts := by
    show _ = [lastAlert, sharingAlert lastAlert].filter _
    have hother : (sharingAlert lastAlert).tenantId = otherTenant lastAlert.tenantId := rfl
    simp [alone, hother, otherTenant_ne]
  links := by
    symm
    refine List.filter_eq_nil_iff.mpr fun link hlink hlive => ?_
    rcases Bool.and_eq_true_iff.mp hlive with ⟨hown, hdeleted⟩
    rcases mem_shared_links hlink with hmem | hother
    · exact hlinks.deletedAt link hmem (beq_iff_eq.mp hdeleted)
    · rw [hother] at hown
      exact otherTenant_ne lastAlert.tenantId (beq_iff_eq.mp hown)
  incidents := by
    have hother : ¬ ((sharingIncident lastAlert incident).tenantId == lastAlert.tenantId) =
        true := fun h => otherTenant_ne lastAlert.tenantId (beq_iff_eq.mp h)
    show _ = (sharingIncident lastAlert incident :: incident :: pastIncidents incident).filter
      fun incident => incident.tenantId == lastAlert.tenantId
    rw [List.filter_cons, if_neg hother]
    rfl
  enrichments := rfl

end Databases

/-!
## Their rows
-/

section Rows

variable {lastAlert : LastAlert C} {alert : Alert C} {incident : Incident C}
  {links : List LastAlertToIncident}

theorem fromLastAlert_alone (hid : alert.id = lastAlert.alertId)
    (htenant : alert.tenantId = lastAlert.tenantId) :
    fromLastAlert (alone lastAlert alert incident) true = [alertWith lastAlert alert none] := by
  have hjoin : joinAlerts (alone lastAlert alert incident) = [alertWith lastAlert alert none] := by
    simp [joinAlerts, Rows.join, alone, hid, htenant, alertWith]
  rw [fromLastAlert_true, hjoin, List.flatMap_singleton]
  show joinIncidents _ [alertWith lastAlert alert none] = _
  unfold joinIncidents
  rw [Rows.leftJoin_of_filter_nil (List.filter_eq_nil_iff.mpr fun _ _ => Bool.false_ne_true)]
  rfl

/-- The row of the alert with one of its links. -/
def linkedRow (lastAlert : LastAlert C) (alert : Alert C) (incident : Incident C)
    (link : LastAlertToIncident) : AlertRow C :=
  { alertWith lastAlert alert (if link.incidentId == incident.id then some incident else none) with
    link := some link }

theorem linkedRow_own (deletedAt : Nat) :
    linkedRow lastAlert alert incident (deletedLink lastAlert incident.id deletedAt) =
      { alertWith lastAlert alert (some incident) with
        link := some (deletedLink lastAlert incident.id deletedAt) } := by
  unfold linkedRow deletedLink
  rw [beq_self_eq_true]
  rfl

theorem linkedRow_other (deletedAt : Nat) :
    linkedRow lastAlert alert incident (deletedLink lastAlert (freshId incident) deletedAt) =
      { alertWith lastAlert alert none with
        link := some (deletedLink lastAlert (freshId incident) deletedAt) } := by
  unfold linkedRow deletedLink
  rw [beq_eq_false_iff_ne.mpr (freshId_ne List.mem_cons_self).symm]
  rfl

section Reads

variable {evaluation : Evaluation (AlertRow C) V} (hreads : ReadsAlertTables evaluation)

include hreads

/-- A row with a link to the incident reads like the alert with the incident. -/
theorem admits_linkedRow_own (deletedAt : Nat) (sql : String) :
    evaluation.admits sql
        (linkedRow lastAlert alert incident (deletedLink lastAlert incident.id deletedAt)) =
      evaluation.admits sql (alertWith lastAlert alert (some incident)) := by
  rw [hreads.admits, linkedRow_own]
  rfl

theorem value_linkedRow_own (deletedAt : Nat) (sql : String) :
    evaluation.value sql
        (linkedRow lastAlert alert incident (deletedLink lastAlert incident.id deletedAt)) =
      evaluation.value sql (alertWith lastAlert alert (some incident)) := by
  rw [linkedRow_own]
  exact hreads.value sql _ _ rfl rfl rfl

/-- A row with a link to the other tenant's incident reads like the alert by itself. -/
theorem admits_linkedRow_other (deletedAt : Nat) (sql : String) :
    evaluation.admits sql
        (linkedRow lastAlert alert incident (deletedLink lastAlert (freshId incident) deletedAt)) =
      evaluation.admits sql (alertWith lastAlert alert none) := by
  rw [hreads.admits, linkedRow_other]
  rfl

theorem value_linkedRow_other (deletedAt : Nat) (sql : String) :
    evaluation.value sql
        (linkedRow lastAlert alert incident (deletedLink lastAlert (freshId incident) deletedAt)) =
      evaluation.value sql (alertWith lastAlert alert none) := by
  rw [linkedRow_other]
  exact hreads.value sql _ _ rfl rfl rfl

end Reads

theorem joinAlerts_shared (hid : alert.id = lastAlert.alertId)
    (htenant : alert.tenantId = lastAlert.tenantId) :
    joinAlerts (shared lastAlert alert incident links) = [alertWith lastAlert alert none] := by
  simp [joinAlerts, Rows.join, shared, sharingAlert, hid, htenant, alertWith, beq_otherTenant]

/-- The other tenant's incident makes the fingerprint a firing one. -/
theorem firing_shared :
    (firingFingerprints (shared lastAlert alert incident links)).contains
      lastAlert.fingerprint = true := by
  have hlinked : (shared lastAlert alert incident links).links.any (fun link =>
      lastAlert.fingerprint == link.fingerprint &&
        (shared lastAlert alert incident links).incidents.any fun incident =>
          link.incidentId == incident.id && incident.status == "firing") = true := by
    refine List.any_eq_true.mpr ⟨sharingLink lastAlert incident,
      List.mem_append_right _ List.mem_cons_self, ?_⟩
    simp [shared, sharingLink, sharingIncident]
  rw [List.contains_iff_mem]
  exact List.mem_map.mpr ⟨lastAlert, List.mem_filter.mpr ⟨List.mem_cons_self, hlinked⟩, rfl⟩

theorem joinLinks_shared (hlinks : DeletedLinks lastAlert incident links) (hne : links ≠ []) :
    joinLinks (shared lastAlert alert incident links) [alertWith lastAlert alert none] =
      links.map fun link => { alertWith lastAlert alert none with link := some link } := by
  have hmatched : (shared lastAlert alert incident links).links.filter (fun link =>
      lastAlert.tenantId == link.tenantId && lastAlert.fingerprint == link.fingerprint) =
      links := by
    show (links ++ [sharingLink lastAlert incident]).filter _ = links
    rw [List.filter_append, List.filter_eq_self.mpr, List.filter_eq_nil_iff.mpr,
      List.append_nil]
    · intro link hlink
      rw [List.mem_singleton.mp hlink]
      simp [sharingLink, (otherTenant_ne lastAlert.tenantId).symm]
    · intro link hlink
      rw [hlinks.tenantId link hlink, hlinks.fingerprint link hlink, beq_self_eq_true,
        beq_self_eq_true]
      rfl
  unfold joinLinks
  rw [Rows.leftJoin_of_filter hmatched hne, List.map_map]
  rfl

theorem joinIncidents_shared (hincident : incident.tenantId = lastAlert.tenantId)
    (hlinks : DeletedLinks lastAlert incident links) {link : LastAlertToIncident}
    (hlink : link ∈ links) :
    joinIncidents (shared lastAlert alert incident links)
        [{ alertWith lastAlert alert none with link := some link }] =
      [linkedRow lastAlert alert incident link] := by
  have htenant := hlinks.tenantId link hlink
  have hmatched : (shared lastAlert alert incident links).incidents.filter (fun other =>
      ((some link).any fun link =>
        link.tenantId == other.tenantId && link.incidentId == other.id) &&
          (firingFingerprints (shared lastAlert alert incident links)).contains
            lastAlert.fingerprint) =
      if link.incidentId == incident.id then [incident] else [] := by
    simp only [firing_shared, Bool.and_true, Option.any_some]
    show (sharingIncident lastAlert incident :: incident :: pastIncidents incident).filter _ = _
    have hother : (link.tenantId == (sharingIncident lastAlert incident).tenantId) = false := by
      rw [htenant]
      exact beq_otherTenant lastAlert.tenantId
    have hpast : (pastIncidents incident).filter (fun other =>
        link.tenantId == other.tenantId && link.incidentId == other.id) = [] := by
      refine List.filter_eq_nil_iff.mpr fun past hmem hon => ?_
      have hown := beq_iff_eq.mp (Bool.and_eq_true_iff.mp hon).1
      rw [(mem_pastIncidents hmem).1, htenant, ← hincident] at hown
      exact otherTenant_ne incident.tenantId hown.symm
    rw [List.filter_cons, List.filter_cons, hother, hpast, htenant, hincident, beq_self_eq_true]
    rfl
  unfold joinIncidents
  cases hid : link.incidentId == incident.id with
  | true =>
      rw [hid] at hmatched
      rw [Rows.leftJoin_of_filter hmatched (List.cons_ne_nil _ _)]
      unfold linkedRow
      rw [hid]
      rfl
  | false =>
      rw [hid] at hmatched
      rw [Rows.leftJoin_of_filter_nil hmatched]
      unfold linkedRow
      rw [hid]
      rfl

theorem fromLastAlert_shared (hid : alert.id = lastAlert.alertId)
    (htenant : alert.tenantId = lastAlert.tenantId)
    (hincident : incident.tenantId = lastAlert.tenantId)
    (hlinks : DeletedLinks lastAlert incident links) (hne : links ≠ []) :
    fromLastAlert (shared lastAlert alert incident links) true =
      links.map (linkedRow lastAlert alert incident) := by
  rw [fromLastAlert_true, joinAlerts_shared hid htenant, List.flatMap_singleton]
  unfold expandAlert
  rw [joinLinks_shared hlinks hne, joinIncidents_flatMap, List.flatMap_map]
  rw [List.flatMap_congr fun link hlink => joinIncidents_shared hincident hlinks hlink]
  exact List.flatMap_pure_eq_map _ _

end Rows

/-!
## What the answers show
-/

section Answers

variable {p : Provider} {celpy : Celpy} {evaluation : Evaluation (AlertRow C) V}
  {hardLimit : Nat} {query : AlertQuery} {result : CelToSqlResult}

/-- The threshold lets the only last alert pass. -/
theorem threshold_alone (lastAlert : LastAlert C) (alert : Alert C) (incident : Incident C)
    (tenantId : String) :
    (threshold (alone lastAlert alert incident) hardLimit tenantId).all
      (fun t => t <= lastAlert.timestamp) = true := by
  cases hthreshold : threshold (alone lastAlert alert incident) hardLimit tenantId with
  | none => rfl
  | some t =>
      have hsorted := List.mem_of_getElem? hthreshold
      have hmem := (List.mem_insertionSort _).mp hsorted
      rcases List.mem_map.mp hmem with ⟨other, hother, heq⟩
      have hsame := List.mem_singleton.mp (List.mem_filter.mp hother).1
      rw [Option.all_some, ← heq, hsame]
      exact decide_eq_true (Nat.le_refl _)

section Built

variable {lastAlert : LastAlert C} {alert : Alert C} {incident : Incident C}
  {links : List LastAlertToIncident}
  (hconvert : convert p celpy query.cel = .ok result)
  (hinvolved : involves "incident." result.involvedFields = true)
  (hown : lastAlert.tenantId = query.tenantId) (htenant : alert.tenantId = query.tenantId)
  (hid : alert.id = lastAlert.alertId) (hincident : incident.tenantId = query.tenantId)

include hown

theorem keeps_eq_admits (sql : String) {row : AlertRow C} (hrow : row.lastAlert = lastAlert) :
    query.keeps evaluation sql
        (threshold (alone lastAlert alert incident) hardLimit query.tenantId) row =
      evaluation.admits sql row := by
  unfold AlertQuery.keeps
  rw [hrow, hown, threshold_alone, beq_self_eq_true]
  rfl

include hconvert hinvolved htenant hid

theorem built_alone :
    buildQueryForFiltering (alone lastAlert alert incident) p celpy evaluation hardLimit query =
      .ok ([alertWith lastAlert alert none].filter (evaluation.admits result.sql), true) := by
  rw [buildQueryForFiltering_of hconvert, hinvolved,
    fromLastAlert_alone hid (htenant.trans hown.symm)]
  congr 2
  refine List.filter_congr fun row hrow => keeps_eq_admits hown result.sql ?_
  rw [List.mem_singleton.mp hrow]
  rfl

include hincident

theorem built_shared (hlinks : DeletedLinks lastAlert incident links) (hne : links ≠ []) :
    buildQueryForFiltering (shared lastAlert alert incident links) p celpy evaluation hardLimit
        query =
      .ok ((links.map (linkedRow lastAlert alert incident)).filter
        (evaluation.admits result.sql), true) := by
  have hsame : SameLive query.tenantId (alone lastAlert alert incident)
      (shared lastAlert alert incident links) := by
    rw [← hown]
    exact sameLive_shared hlinks
  rw [buildQueryForFiltering_of hconvert, hinvolved, ← threshold_eq hsame,
    fromLastAlert_shared hid (htenant.trans hown.symm) (hincident.trans hown.symm) hlinks hne]
  congr 2
  refine List.filter_congr fun row hrow => keeps_eq_admits hown result.sql ?_
  rcases List.mem_map.mp hrow with ⟨link, -, heq⟩
  rw [← heq]
  rfl

end Built

variable [DecidableEq C] [DecidableEq V]

/-- As many rows are listed and counted. -/
theorem lengths_eq_of_ownLive (h : AlertsOwnLive p celpy evaluation hardLimit query)
    {db db' : Database C} (hdb : db.Valid) (hdb' : db'.Valid)
    (hsame : SameLive query.tenantId db db') {rows rows' : List (AlertRow C)}
    (hrows : buildQueryForFiltering db p celpy evaluation hardLimit query = .ok (rows, true))
    (hrows' : buildQueryForFiltering db' p celpy evaluation hardLimit query = .ok (rows', true)) :
    (Rows.kept (alertListKey p evaluation query true) rows).length =
        (Rows.kept (alertListKey p evaluation query true) rows').length ∧
      (Rows.kept (alertCountKey query) rows).length =
        (Rows.kept (alertCountKey query) rows').length := by
  rcases h db db' hdb hdb' hsame with ⟨hlist, htotal⟩
  unfold queryLastAlerts buildAlertsQuery at hlist
  unfold buildTotalAlertsQuery at htotal
  rw [hrows, hrows'] at hlist htotal
  constructor
  · have hcard := congrArg Multiset.card (Except.ok.inj hlist)
    rw [Multiset.coe_card, Multiset.coe_card, List.length_map, List.length_map] at hcard
    exact hcard
  · exact Except.ok.inj htotal

section Shared

variable {lastAlert : LastAlert C} {alert : Alert C} {incident : Incident C}
  (h : AlertsOwnLive p celpy evaluation hardLimit query)
  (hreads : ReadsAlertTables evaluation)
  (hconvert : convert p celpy query.cel = .ok result)
  (hinvolved : involves "incident." result.involvedFields = true)
  (hown : lastAlert.tenantId = query.tenantId) (htenant : alert.tenantId = query.tenantId)
  (hid : alert.id = lastAlert.alertId) (hincident : incident.tenantId = query.tenantId)

include h hconvert hinvolved hown htenant hid hincident

theorem lengths_shared {links : List LastAlertToIncident}
    (hlinks : DeletedLinks lastAlert incident links) (hne : links ≠ []) :
    (Rows.kept (alertListKey p evaluation query true)
          ([alertWith lastAlert alert none].filter (evaluation.admits result.sql))).length =
        (Rows.kept (alertListKey p evaluation query true)
          ((links.map (linkedRow lastAlert alert incident)).filter
            (evaluation.admits result.sql))).length ∧
      (Rows.kept (alertCountKey query)
          ([alertWith lastAlert alert none].filter (evaluation.admits result.sql))).length =
        (Rows.kept (alertCountKey query)
          ((links.map (linkedRow lastAlert alert incident)).filter
            (evaluation.admits result.sql))).length := by
  have hsame : SameLive query.tenantId (alone lastAlert alert incident)
      (shared lastAlert alert incident links) := by
    rw [← hown]
    exact sameLive_shared hlinks
  exact lengths_eq_of_ownLive h alone_valid (shared_valid hlinks) hsame
    (built_alone hconvert hinvolved hown htenant hid)
    (built_shared hconvert hinvolved hown htenant hid hincident hlinks hne)

include hreads

theorem admits_eq_of_ownLive :
    evaluation.admits result.sql (alertWith lastAlert alert (some incident)) =
      evaluation.admits result.sql (alertWith lastAlert alert none) := by
  have hlengths := (lengths_shared h hconvert hinvolved hown htenant hid hincident
    deletedLinks_own (List.cons_ne_nil _ _)).1
  rw [List.map_singleton] at hlengths
  rw [← admits_linkedRow_own hreads 1]
  exact (Rows.eq_of_length_kept_filter hlengths).symm

theorem counts_of_ownLive
    (hadmits : evaluation.admits result.sql (alertWith lastAlert alert none) = true) :
    query.cel.any (containsText "incident.") = true := by
  have hlinked := (admits_eq_of_ownLive h hreads hconvert hinvolved hown htenant hid
    hincident).trans hadmits
  have hlengths := (lengths_shared h hconvert hinvolved hown htenant hid hincident
    deletedLinks_twice (List.cons_ne_nil _ _)).2
  rw [Rows.length_kept_filter_singleton, hadmits, List.filter_eq_self.mpr] at hlengths
  · cases hdistinct : query.cel.any (containsText "incident.") with
    | true => rfl
    | false =>
        have hkey : alertCountKey (C := C) query = none := by
          unfold alertCountKey
          rw [hdistinct]
          rfl
        rw [hkey] at hlengths
        cases hlengths
  · intro row hrow
    rcases List.mem_pair.mp hrow with heq | heq
    · rw [heq, admits_linkedRow_own hreads, hlinked]
    · rw [heq, admits_linkedRow_own hreads, hlinked]

theorem values_of_ownLive
    (hadmits : evaluation.admits result.sql (alertWith lastAlert alert none) = true)
    {column : String} (hcolumn : column ∈ query.distinctColumns) :
    evaluation.value column (alertWith lastAlert alert (some incident)) =
      evaluation.value column (alertWith lastAlert alert none) := by
  have hlinked := (admits_eq_of_ownLive h hreads hconvert hinvolved hown htenant hid
    hincident).trans hadmits
  have hnew : deletedLink lastAlert (freshId incident) 1 ∉
      [deletedLink lastAlert incident.id 1] := by
    intro hmem
    have hids := congrArg LastAlertToIncident.incidentId (List.mem_singleton.mp hmem)
    exact freshId_ne List.mem_cons_self hids.symm
  have hlinks := deletedLinks_own.cons (.inr rfl) Nat.one_ne_zero hnew
  have hlengths := (lengths_shared h hconvert hinvolved hown htenant hid hincident hlinks
    (List.cons_ne_nil _ _)).1
  rw [Rows.length_kept_filter_singleton, hadmits, List.filter_eq_self.mpr] at hlengths
  · have hkeys := Rows.key_eq_of_length_distinctOn hlengths.symm
    have hvalues := List.map_inj_left.mp (congrArg Prod.fst hkeys) column hcolumn
    rw [value_linkedRow_own hreads, value_linkedRow_other hreads] at hvalues
    exact hvalues.symm
  · intro row hrow
    rcases List.mem_pair.mp hrow with heq | heq
    · rw [heq, admits_linkedRow_other hreads, hadmits]
    · rw [heq, admits_linkedRow_own hreads, hlinked]

end Shared

/-- The queries look at the rows of others, or at deleted links, unless the filter is blind to
incidents. -/
theorem blind_of_alertsOwnLive (hreads : ReadsAlertTables evaluation)
    (h : AlertsOwnLive (C := C) p celpy evaluation hardLimit query) :
    BlindToIncidents (C := C) p celpy evaluation query := by
  intro result hconvert hinvolved lastAlert alert incident hown htenant hid hincident
  constructor
  · exact admits_eq_of_ownLive h hreads hconvert hinvolved hown htenant hid hincident
  · intro hadmits
    constructor
    · exact counts_of_ownLive h hreads hconvert hinvolved hown htenant hid hincident hadmits
    · intro column hcolumn
      exact values_of_ownLive h hreads hconvert hinvolved hown htenant hid hincident hadmits
        hcolumn

end Answers

end Listing
end KeepGateway
