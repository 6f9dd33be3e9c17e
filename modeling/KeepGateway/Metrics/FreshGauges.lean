import KeepGateway.Metrics.Refreshes
import Mathlib.Data.List.ProdSigma

/-!
# Fresh gauges

After which calls the gauges show what is computed, over any run of refreshes.
-/

namespace KeepGateway
namespace Metrics

open Gauges

/-!
## What is computed
-/

theorem exec_eq_ok {α : Type} {fails : Bool} {rows result : List α} :
    exec fails rows = .ok result <-> fails = false ∧ result = rows := by
  unfold exec
  cases fails with
  | true =>
      constructor
      · intro h
        cases h
      · rintro ⟨h, _⟩
        cases h
  | false =>
      constructor
      · intro h
        exact ⟨rfl, (Except.ok.inj h).symm⟩
      · rintro ⟨_, h⟩
        rw [h]
        rfl

theorem mem_keys_distinctUsers {audits : List AlertAudit} {cutoff : Int} {tenantId : String} :
    tenantId ∈ (distinctUsers audits cutoff).map Prod.fst <->
      exists audit, audit ∈ audits ∧ audit.tenantId = tenantId ∧ audit.isActive cutoff = true := by
  unfold distinctUsers
  rw [List.map_map]
  show tenantId ∈ ((audits.filter (AlertAudit.isActive cutoff)).map
    AlertAudit.tenantId).dedup.map id <-> _
  rw [List.map_id, List.mem_dedup, List.mem_map]
  constructor
  · rintro ⟨audit, hmem, htenant⟩
    rcases List.mem_filter.mp hmem with ⟨hmem, hactive⟩
    exact ⟨audit, hmem, htenant, hactive⟩
  · rintro ⟨audit, hmem, htenant, hactive⟩
    exact ⟨audit, List.mem_filter.mpr ⟨hmem, hactive⟩, htenant⟩

/-- The counts of each window, where no query fails. -/
def perWindow (audits : List AlertAudit) (now : Int) : List (String × List (String × Nat)) :=
  activeUserWindows.map fun window => (window.1, distinctUsers audits (now - window.2))

theorem computeActiveUsers_eq_ok {fails : String -> Bool} {audits : List AlertAudit} {now : Int}
    {counts : List ((String × String) × Nat)} :
    computeActiveUsers fails audits now = .ok counts <->
      (forall window, window ∈ activeUserWindows -> fails window.1 = false) ∧
        counts = emit (perWindow audits now) := by
  have hwindow : forall (window : String × Int) (entry : String × List (String × Nat)),
      ((exec (fails window.1) (distinctUsers audits (now - window.2))).map fun counts =>
          (window.1, counts)) = .ok entry <->
        fails window.1 = false ∧ entry = (window.1, distinctUsers audits (now - window.2)) := by
    intro window entry
    rw [map_eq_ok]
    constructor
    · rintro ⟨rows, hrows, heq⟩
      rcases exec_eq_ok.mp hrows with ⟨hfails, hsame⟩
      exact ⟨hfails, by rw [← heq, hsame]⟩
    · rintro ⟨hfails, heq⟩
      exact ⟨_, exec_eq_ok.mpr ⟨hfails, rfl⟩, heq.symm⟩
  unfold computeActiveUsers
  rw [map_eq_ok]
  constructor
  · rintro ⟨entries, hentries, heq⟩
    rcases (mapM_eq_ok_map hwindow).mp hentries with ⟨hfails, hmap⟩
    exact ⟨hfails, by rw [← heq, hmap]; rfl⟩
  · rintro ⟨hfails, heq⟩
    exact ⟨perWindow audits now, (mapM_eq_ok_map hwindow).mpr ⟨hfails, rfl⟩, heq.symm⟩

/-- The longest of the windows. -/
theorem exists_window_iff {audits : List AlertAudit} {now : Int} {tenantId : String} :
    (exists window, window ∈ activeUserWindows ∧
        tenantId ∈ (distinctUsers audits (now - window.2)).map Prod.fst) <->
      exists audit, audit ∈ audits ∧ audit.tenantId = tenantId ∧
        audit.isActive (now - days 30) = true := by
  constructor
  · rintro ⟨window, hwindow, htenant⟩
    rcases mem_keys_distinctUsers.mp htenant with ⟨audit, hmem, htenant, hactive⟩
    have hshorter : window.2 ≤ days 30 := by
      rcases List.mem_cons.mp hwindow with heq | hwindow
      · rw [heq]
        decide
      · rcases List.mem_cons.mp hwindow with heq | hwindow
        · rw [heq]
          decide
        · rw [List.mem_singleton.mp hwindow]
    refine ⟨audit, hmem, htenant, ?_⟩
    unfold AlertAudit.isActive at hactive ⊢
    rw [Bool.and_eq_true_iff, decide_eq_true_iff] at hactive ⊢
    exact ⟨Int.le_trans (Int.sub_le_sub_left hshorter now) hactive.1, hactive.2⟩
  · intro h
    exact ⟨("30d", days 30), List.mem_cons_of_mem _ (List.mem_cons_of_mem _ List.mem_cons_self),
      mem_keys_distinctUsers.mpr h⟩

theorem keys_emit (entries : List (String × List (String × Nat))) :
    (emit entries).map Prod.fst =
      (entries.flatMap fun entry => entry.2.map Prod.fst).dedup ×ˢ
        activeUserWindows.map Prod.fst := by
  unfold emit
  rw [List.map_flatMap]
  rfl

theorem distinct_emit (entries : List (String × List (String × Nat))) :
    Dict.Distinct (emit entries) := by
  unfold Dict.Distinct
  rw [keys_emit]
  exact (List.nodup_dedup _).product (by decide)

theorem mem_keys_emit {audits : List AlertAudit} {now : Int} {tenantId window : String} :
    (tenantId, window) ∈ (emit (perWindow audits now)).map Prod.fst <->
      (exists audit, audit ∈ audits ∧ audit.tenantId = tenantId ∧
        audit.isActive (now - days 30) = true) ∧ window ∈ activeUserWindows.map Prod.fst := by
  rw [keys_emit, List.mem_product, ← exists_window_iff, List.mem_dedup, List.mem_flatMap]
  refine and_congr_left fun _ => ?_
  unfold perWindow
  constructor
  · rintro ⟨entry, hentry, htenant⟩
    rcases List.mem_map.mp hentry with ⟨window, hwindow, heq⟩
    rw [← heq] at htenant
    exact ⟨window, hwindow, htenant⟩
  · rintro ⟨window, hwindow, htenant⟩
    exact ⟨_, List.mem_map.mpr ⟨window, hwindow, rfl⟩, htenant⟩

theorem distinct_countBy {α κ : Type} [DecidableEq κ] (key : α -> κ) (rows : List α) :
    Dict.Distinct (Rows.countBy key rows) := by
  unfold Dict.Distinct Rows.countBy
  rw [List.map_map]
  show (List.map id _).Nodup
  rw [List.map_id]
  exact List.nodup_dedup _

theorem distinct_countTicket {counts : List ((String × TicketProvider) × Nat)}
    (h : Dict.Distinct counts) (row : IncidentEnrichment) :
    Dict.Distinct (countTicket counts row) := by
  unfold countTicket
  split
  · exact h
  · exact h.set _ _

theorem distinct_tickets (rows : List IncidentEnrichment) {counts : List _}
    (h : Dict.Distinct counts) : Dict.Distinct (rows.foldl countTicket counts) := by
  induction rows generalizing counts with
  | nil => exact h
  | cons row rows ih => exact ih (distinct_countTicket h row)

theorem distinct_of_countAlertsInIncidents {fails : Bool} {links : List LastAlertToIncident}
    {counts : List (String × Nat)} (h : countAlertsInIncidents fails links = .ok counts) :
    Dict.Distinct counts := by
  rw [(exec_eq_ok.mp h).2]
  exact distinct_countBy _ _

theorem distinct_of_countIncidentsWithTicket {fails : Bool} {rows : List IncidentEnrichment}
    {counts : List ((String × TicketProvider) × Nat)}
    (h : countIncidentsWithTicket fails rows = .ok counts) : Dict.Distinct counts := by
  rcases map_eq_ok.mp h with ⟨rows', _, heq⟩
  rw [← heq]
  exact distinct_tickets rows' Dict.distinct_nil

/-!
## One call
-/

/-- The gauges of the call show what it computes. -/
def Call.ShowsFresh (process : Process) : Call -> Prop
  | activeUsers fails db now => forall counts,
      computeActiveUsers fails db.alertAudits now = .ok counts ->
        Shows counts process.activeUsersGauge
  | incidents alertsFail ticketsFail db => forall alerts tickets,
      countAlertsInIncidents alertsFail db.lastAlertToIncidents = .ok alerts ->
        countIncidentsWithTicket ticketsFail db.incidentEnrichments = .ok tickets ->
          Shows alerts process.incidentAlertsAssociatedGauge ∧
            Shows tickets process.incidentsWithTicketGauge

/-- Where the users are counted, each tenant that is shown with some has had one within the
longest window. -/
def Call.NoTenantGone (process : Process) : Call -> Prop
  | activeUsers fails db now =>
      (forall window, window ∈ activeUserWindows -> fails window.1 = false) ->
        forall tenantId window shown, process.activeUsersGauge (tenantId, window) = some shown ->
          shown ≠ 0 -> exists audit, audit ∈ db.alertAudits ∧ audit.tenantId = tenantId ∧
            audit.isActive (now - days 30) = true
  | incidents _ _ _ => True

/-- What holds of the process between its calls. -/
structure Inv (process : Process) : Prop where
  windows : forall tenantId window shown,
    process.activeUsersGauge (tenantId, window) = some shown ->
      window ∈ activeUserWindows.map Prod.fst
  alerts : Covers process.seenAlertLabels process.incidentAlertsAssociatedGauge
  tickets : Covers process.seenTicketLabels process.incidentsWithTicketGauge

theorem init_inv : Inv Process.init := by
  refine ⟨?_, ?_, ?_⟩
  · intro tenantId window shown h
    cases h
  · intro key shown h
    cases h
  · intro key shown h
    cases h

theorem refreshActiveUsersMetric_eq_ok {fails : String -> Bool} {db : Database} {now : Int}
    {process process' : Process} :
    refreshActiveUsersMetric fails db now process = .ok process' <->
      (forall window, window ∈ activeUserWindows -> fails window.1 = false) ∧
        process' = { process with
          activeUsersGauge :=
            process.activeUsersGauge.setAll (emit (perWindow db.alertAudits now)) } := by
  unfold refreshActiveUsersMetric
  rw [map_eq_ok]
  constructor
  · rintro ⟨counts, hcounts, heq⟩
    rcases computeActiveUsers_eq_ok.mp hcounts with ⟨hfails, hsame⟩
    rw [hsame] at heq
    exact ⟨hfails, heq.symm⟩
  · rintro ⟨hfails, heq⟩
    exact ⟨_, computeActiveUsers_eq_ok.mpr ⟨hfails, rfl⟩, heq.symm⟩

theorem refreshIncidentMetrics_eq_ok {alertsFail ticketsFail : Bool} {db : Database}
    {process process' : Process} :
    refreshIncidentMetrics alertsFail ticketsFail db process = .ok process' <->
      exists alerts tickets,
        countAlertsInIncidents alertsFail db.lastAlertToIncidents = .ok alerts ∧
          countIncidentsWithTicket ticketsFail db.incidentEnrichments = .ok tickets ∧
            process' = process.setIncidents alerts tickets := by
  unfold refreshIncidentMetrics
  rw [bind_eq_ok]
  constructor
  · rintro ⟨alerts, halerts, hrest⟩
    rcases bind_eq_ok.mp hrest with ⟨tickets, htickets, heq⟩
    exact ⟨alerts, tickets, halerts, htickets, (Except.ok.inj heq).symm⟩
  · rintro ⟨alerts, tickets, halerts, htickets, heq⟩
    exact ⟨alerts, halerts, bind_eq_ok.mpr ⟨tickets, htickets, congrArg Except.ok heq.symm⟩⟩

theorem setIncidents_inv {process : Process} (h : Inv process) {alerts : List (String × Nat)}
    {tickets : List ((String × TicketProvider) × Nat)} (halerts : Dict.Distinct alerts)
    (htickets : Dict.Distinct tickets) : Inv (process.setIncidents alerts tickets) :=
  ⟨h.windows, covers_setAll halerts (covers_reset h.alerts alerts),
    covers_setAll htickets (covers_reset h.tickets tickets)⟩

theorem after_of_ok {process process' : Process} {call : Call}
    (h : call.refresh process = .ok process') : process.after call = process' := by
  unfold Process.after
  rw [h]

theorem after_inv {process : Process} (h : Inv process) (call : Call) :
    Inv (process.after call) := by
  unfold Process.after
  split
  case h_1 process' hrefresh =>
    cases call with
    | activeUsers fails db now =>
        rw [(refreshActiveUsersMetric_eq_ok.mp hrefresh).2]
        refine ⟨?_, h.alerts, h.tickets⟩
        intro tenantId window shown hshown
        rcases setAll_cases (distinct_emit _) hshown with hnow | hbefore
        · exact (mem_keys_emit.mp hnow).2
        · exact h.windows tenantId window shown hbefore
    | incidents alertsFail ticketsFail db =>
        rcases refreshIncidentMetrics_eq_ok.mp hrefresh with ⟨alerts, tickets, ha, ht, heq⟩
        rw [heq]
        exact setIncidents_inv h (distinct_of_countAlertsInIncidents ha)
          (distinct_of_countIncidentsWithTicket ht)
  case h_2 => exact h

theorem run_inv {process : Process} (h : Inv process) (calls : List Call) :
    Inv (process.run calls) := by
  induction calls generalizing process with
  | nil => exact h
  | cons call calls ih => exact ih (after_inv h call)

/-- The incident gauges always show what is computed. -/
theorem incidents_showsFresh {process : Process} (h : Inv process) (alertsFail ticketsFail : Bool)
    (db : Database) :
    (Call.incidents alertsFail ticketsFail db).ShowsFresh
      (process.after (.incidents alertsFail ticketsFail db)) := by
  intro alerts tickets halerts htickets
  have hrefresh : (Call.incidents alertsFail ticketsFail db).refresh process =
      .ok (process.setIncidents alerts tickets) :=
    refreshIncidentMetrics_eq_ok.mpr ⟨alerts, tickets, halerts, htickets, rfl⟩
  rw [after_of_ok hrefresh]
  constructor
  · exact (shows_setAll_iff (distinct_of_countAlertsInIncidents halerts) _).mpr
      (covers_reset h.alerts alerts)
  · exact (shows_setAll_iff (distinct_of_countIncidentsWithTicket htickets) _).mpr
      (covers_reset h.tickets tickets)

theorem activeUsers_showsFresh_iff {process : Process} (h : Inv process) (fails : String -> Bool)
    (db : Database) (now : Int) :
    (Call.activeUsers fails db now).ShowsFresh (process.after (.activeUsers fails db now)) <->
      (Call.activeUsers fails db now).NoTenantGone process := by
  rcases Classical.em (forall window, window ∈ activeUserWindows -> fails window.1 = false) with
    hfails | hfails
  · have hafter : (process.after (.activeUsers fails db now)).activeUsersGauge =
        process.activeUsersGauge.setAll (emit (perWindow db.alertAudits now)) := by
      have hrefresh : (Call.activeUsers fails db now).refresh process = .ok _ :=
        refreshActiveUsersMetric_eq_ok.mpr ⟨hfails, rfl⟩
      rw [after_of_ok hrefresh]
    have hcovers := shows_setAll_iff (distinct_emit (perWindow db.alertAudits now))
      process.activeUsersGauge
    constructor
    · intro hfresh _ tenantId window shown hshown hpositive
      have hshows := hfresh _ (computeActiveUsers_eq_ok.mpr ⟨hfails, rfl⟩)
      rw [hafter] at hshows
      exact (mem_keys_emit.mp (hcovers.mp hshows (tenantId, window) shown hshown hpositive)).1
    · intro hgone counts hcounts
      rw [(computeActiveUsers_eq_ok.mp hcounts).2, hafter]
      refine hcovers.mpr ?_
      rintro ⟨tenantId, window⟩ shown hshown hpositive
      exact mem_keys_emit.mpr ⟨hgone hfails tenantId window shown hshown hpositive,
        h.windows tenantId window shown hshown⟩
  · constructor
    · intro _ hnone
      exact absurd hnone hfails
    · intro _ counts hcounts
      exact absurd (computeActiveUsers_eq_ok.mp hcounts).1 hfails

theorem showsFresh_iff {process : Process} (h : Inv process) (call : Call) :
    call.ShowsFresh (process.after call) <-> call.NoTenantGone process := by
  cases call with
  | activeUsers fails db now => exact activeUsers_showsFresh_iff h fails db now
  | incidents alertsFail ticketsFail db =>
      exact ⟨fun _ => trivial, fun _ => incidents_showsFresh h alertsFail ticketsFail db⟩

/-!
## Every run
-/

/-- After each call of a process, its gauges show what it computes. -/
def NeverStale (calls : List Call) : Prop :=
  forall before call rest, calls = before ++ call :: rest ->
    call.ShowsFresh ((Process.init.run before).after call)

theorem neverStale_iff (calls : List Call) :
    NeverStale calls <-> forall before call rest, calls = before ++ call :: rest ->
      call.NoTenantGone (Process.init.run before) := by
  constructor
  · intro h before call rest heq
    exact (showsFresh_iff (run_inv init_inv before) call).mp (h before call rest heq)
  · intro h before call rest heq
    exact (showsFresh_iff (run_inv init_inv before) call).mpr (h before call rest heq)

/-- A user is active, and nobody for thirty days after that. -/
def quietTenant : List Call :=
  let db : Database := ⟨[⟨"keep", days 100, "alice"⟩], [], []⟩
  [.activeUsers (fun _ => false) db (days 100), .activeUsers (fun _ => false) db (days 131)]

theorem quietTenant_stale : ¬ NeverStale quietTenant := by
  intro h
  have hshows := h [quietTenant[0]] quietTenant[1] [] rfl [] rfl
  have hone := hshows.1 ("keep", "30d") 1 rfl
  cases hone

end Metrics
end KeepGateway
