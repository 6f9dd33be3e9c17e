import KeepGateway.Enrichments.ElasticDocument
import Mathlib.Data.List.DropRight
import Mathlib.Data.List.Induction

/-!
# Counters and start times of alerts

The four helpers that compute the counters and the start times of an alert from the previous
alert of its fingerprint, and what they say of a whole history.
-/

namespace KeepGateway
namespace Enrichments

/-- What a provider reports; the validators of `AlertDto` leave no `last_received` empty. -/
structure Report where
  status : AlertStatus
  lastReceived : String
  lastReceived_ne : lastReceived ≠ ""
  deriving DecidableEq

/-- The fields of an `AlertDto` that the helpers read and compute. -/
structure TrackedAlert extends Report where
  firingStartTime : Option String
  firingStartTimeSinceLastResolved : Option String
  firingCounter : Int
  unresolvedCounter : Int

/-- `AlertDto | list[AlertDto]`, or None. -/
inductive PreviousAlert where
  | absent
  | alert (alert : TrackedAlert)
  | list (alerts : List TrackedAlert)

/-- None if `not previous_alert`, else the alert or the first of the list. -/
def PreviousAlert.first? : PreviousAlert -> Option TrackedAlert
  | absent => none
  | alert previous => some previous
  | list alerts => alerts.head?

/-- A text that Python takes as false is passed over. -/
def truthy (text : Option String) : Option String := text.filter fun s => s ≠ ""

namespace Report

variable (alert : Report) (previousAlert : PreviousAlert)

/-- `calculated_start_firing_time` -/
def calculatedStartFiringTime : Option String :=
  if alert.status ≠ .firing then none
  else
    match previousAlert.first? with
    | none => some alert.lastReceived
    | some previous =>
        if previous.status = .firing then previous.firingStartTime
        else some alert.lastReceived

/-- `calculate_firing_time_since_last_resolved` -/
def calculateFiringTimeSinceLastResolved : Option String :=
  if alert.status = .resolved then none
  else
    match previousAlert.first? with
    | some previous =>
        if previous.status = .resolved ∧ alert.status = .firing then some alert.lastReceived
        -- where the previous alert has no such time, the function ends without a return
        else truthy previous.firingStartTimeSinceLastResolved
    | none => if alert.status = .firing then some alert.lastReceived else none

/-- `calculated_firing_counter` -/
def calculatedFiringCounter : Int :=
  if alert.status = .acknowledged then 0
  else
    match previousAlert.first? with
    | none => 1
    | some previous => if previous.status = .acknowledged then 1 else previous.firingCounter + 1

/-- `calculated_unresolved_counter` -/
def calculatedUnresolvedCounter : Int :=
  if alert.status = .resolved then 0
  else
    match previousAlert.first? with
    | none => 1
    | some previous => if previous.status = .resolved then 1 else previous.unresolvedCounter + 1

/-- The alert with what the four helpers compute. -/
def tracked : TrackedAlert :=
  { alert with
    firingStartTime := alert.calculatedStartFiringTime previousAlert
    firingStartTimeSinceLastResolved := alert.calculateFiringTimeSinceLastResolved previousAlert
    firingCounter := alert.calculatedFiringCounter previousAlert
    unresolvedCounter := alert.calculatedUnresolvedCounter previousAlert }

end Report

/-!
## Histories
-/

/-- A report, with whether the earlier alerts are handed over as a list or as the last one. -/
structure Arrival where
  report : Report
  asList : Bool

/-- What is handed over of the earlier alerts, the newest of which is first. -/
def previousOf (asList : Bool) (earlier : List TrackedAlert) : PreviousAlert :=
  if asList then .list earlier
  else
    match earlier with
    | [] => .absent
    | newest :: _ => .alert newest

def Arrival.tracked (arrival : Arrival) (earlier : List TrackedAlert) : TrackedAlert :=
  arrival.report.tracked (previousOf arrival.asList earlier)

/-- The alerts of a history, the newest first. -/
def trackedHistory (history : List Arrival) : List TrackedAlert :=
  history.foldl (fun earlier arrival => arrival.tracked earlier :: earlier) []

/-- The reports since the last acknowledged one. -/
def sinceAcknowledged (history : List Report) : List Report :=
  history.rtakeWhile fun report => report.status ≠ .acknowledged

/-- The reports since the last resolved one. -/
def sinceResolved (history : List Report) : List Report :=
  history.rtakeWhile fun report => report.status ≠ .resolved

/-- The unbroken run of firing reports that the history ends with. -/
def firingRun (history : List Report) : List Report :=
  history.rtakeWhile fun report => report.status = .firing

/-- What the fields of the last alert of a history are meant to say of it. -/
structure Describes (history : List Report) (alert : TrackedAlert) : Prop where
  firingCounter : alert.firingCounter = (sinceAcknowledged history).length
  unresolvedCounter : alert.unresolvedCounter = (sinceResolved history).length
  firingStartTime : alert.status = .firing ->
    alert.firingStartTime = (firingRun history).head?.map Report.lastReceived
  firingStartTimeSinceLastResolved : alert.status ≠ .resolved ->
    alert.firingStartTimeSinceLastResolved =
      ((sinceResolved history).find? fun report => report.status = .firing).map
        Report.lastReceived

/-- Every alert of the history describes it up to itself. -/
def DescribesThroughout (history : List Arrival) : Prop :=
  forall past arrival rest, history = past ++ arrival :: rest ->
    Describes ((past ++ [arrival]).map Arrival.report) (arrival.tracked (trackedHistory past))

/-- If any of the reports fires, the first one does. -/
def OpensFiring (reports : List Report) : Prop :=
  (exists report, report ∈ reports ∧ report.status = .firing) ->
    exists first, reports.head? = some first ∧ first.status = .firing

/-- At every moment, the reports since the last resolved one open with a firing report, if
there is a firing one among them. -/
def OpensFiringThroughout (history : List Arrival) : Prop :=
  forall past arrival rest, history = past ++ arrival :: rest ->
    OpensFiring (sinceResolved ((past ++ [arrival]).map Arrival.report))

/-!
## One alert after another
-/

@[simp]
theorem first?_previousOf (asList : Bool) (earlier : List TrackedAlert) :
    (previousOf asList earlier).first? = earlier.head? := by
  cases asList with
  | true => rfl
  | false => cases earlier <;> rfl

@[simp]
theorem tracked_report (arrival : Arrival) (earlier : List TrackedAlert) :
    (arrival.tracked earlier).toReport = arrival.report := rfl

theorem trackedHistory_concat (past : List Arrival) (arrival : Arrival) :
    trackedHistory (past ++ [arrival]) =
      arrival.tracked (trackedHistory past) :: trackedHistory past := by
  unfold trackedHistory
  rw [List.foldl_append]
  rfl

theorem truthy_lastReceived (reports : Option Report) :
    truthy (reports.map Report.lastReceived) = reports.map Report.lastReceived := by
  cases reports with
  | none => rfl
  | some report => exact Option.filter_some_pos (decide_eq_true report.lastReceived_ne)

theorem sinceAcknowledged_concat (past : List Report) (report : Report) :
    sinceAcknowledged (past ++ [report]) =
      if report.status = .acknowledged then [] else sinceAcknowledged past ++ [report] := by
  unfold sinceAcknowledged
  rw [List.rtakeWhile_concat]
  by_cases h : report.status = .acknowledged <;> simp [h]

theorem sinceResolved_concat (past : List Report) (report : Report) :
    sinceResolved (past ++ [report]) =
      if report.status = .resolved then [] else sinceResolved past ++ [report] := by
  unfold sinceResolved
  rw [List.rtakeWhile_concat]
  by_cases h : report.status = .resolved <;> simp [h]

theorem firingRun_concat (past : List Report) (report : Report) :
    firingRun (past ++ [report]) =
      if report.status = .firing then firingRun past ++ [report] else [] := by
  unfold firingRun
  rw [List.rtakeWhile_concat]
  by_cases h : report.status = .firing <;> simp [h]

/-- The time at which the reports since the last resolved one open, if with a firing one. -/
def openingTime (history : List Report) : Option String :=
  ((sinceResolved history).head?.filter fun report => report.status = .firing).map
    Report.lastReceived

/-- What the fields of the last alert of a history do say of it. -/
structure Records (history : List Report) (alert : TrackedAlert) : Prop where
  firingCounter : alert.firingCounter = (sinceAcknowledged history).length
  unresolvedCounter : alert.unresolvedCounter = (sinceResolved history).length
  firingStartTime : alert.status = .firing ->
    alert.firingStartTime = (firingRun history).head?.map Report.lastReceived
  firingStartTimeSinceLastResolved :
    alert.firingStartTimeSinceLastResolved = openingTime history

section

variable {report : Report} {previousAlert : PreviousAlert}

theorem records_first (hprevious : previousAlert.first? = none) :
    Records [report] (report.tracked previousAlert) := by
  constructor
  · show report.calculatedFiringCounter previousAlert = _
    rw [← List.nil_append [report], sinceAcknowledged_concat]
    unfold Report.calculatedFiringCounter
    rw [hprevious]
    split <;> rfl
  · show report.calculatedUnresolvedCounter previousAlert = _
    rw [← List.nil_append [report], sinceResolved_concat]
    unfold Report.calculatedUnresolvedCounter
    rw [hprevious]
    split <;> rfl
  · intro hfiring
    show report.calculatedStartFiringTime previousAlert = _
    have hfiring : report.status = .firing := hfiring
    rw [← List.nil_append [report], firingRun_concat, if_pos hfiring]
    unfold Report.calculatedStartFiringTime
    rw [hprevious, if_neg (not_not.mpr hfiring)]
    rfl
  · show report.calculateFiringTimeSinceLastResolved previousAlert = _
    unfold Report.calculateFiringTimeSinceLastResolved openingTime
    rw [hprevious, ← List.nil_append [report], sinceResolved_concat]
    cases hstatus : report.status <;> simp [sinceResolved, Option.filter_some, hstatus]

variable {previous : TrackedAlert} {before : List Report}

theorem firingCounter_next (hprevious : previousAlert.first? = some previous)
    (hrecords : Records (before ++ [previous.toReport]) previous) :
    report.calculatedFiringCounter previousAlert =
      (sinceAcknowledged (before ++ [previous.toReport] ++ [report])).length := by
  have hcounter := hrecords.firingCounter
  unfold Report.calculatedFiringCounter
  rw [sinceAcknowledged_concat, hprevious]
  split
  · rfl
  · show (if previous.status = .acknowledged then 1 else previous.firingCounter + 1) = _
    split
    · rename_i hacknowledged
      rw [sinceAcknowledged_concat, if_pos hacknowledged]
      rfl
    · rw [hcounter, List.length_append]
      rfl

theorem unresolvedCounter_next (hprevious : previousAlert.first? = some previous)
    (hrecords : Records (before ++ [previous.toReport]) previous) :
    report.calculatedUnresolvedCounter previousAlert =
      (sinceResolved (before ++ [previous.toReport] ++ [report])).length := by
  have hcounter := hrecords.unresolvedCounter
  unfold Report.calculatedUnresolvedCounter
  rw [sinceResolved_concat, hprevious]
  split
  · rfl
  · show (if previous.status = .resolved then 1 else previous.unresolvedCounter + 1) = _
    split
    · rename_i hresolved
      rw [sinceResolved_concat, if_pos hresolved]
      rfl
    · rw [hcounter, List.length_append]
      rfl

theorem firingStartTime_next (hprevious : previousAlert.first? = some previous)
    (hrecords : Records (before ++ [previous.toReport]) previous)
    (hfiring : report.status = .firing) :
    report.calculatedStartFiringTime previousAlert =
      (firingRun (before ++ [previous.toReport] ++ [report])).head?.map
        Report.lastReceived := by
  unfold Report.calculatedStartFiringTime
  rw [firingRun_concat, if_pos hfiring, if_neg (not_not.mpr hfiring), hprevious]
  show (if previous.status = .firing then previous.firingStartTime else some report.lastReceived) =
    _
  split
  · rename_i hrun
    rw [hrecords.firingStartTime hrun, firingRun_concat, if_pos hrun]
    simp
  · rename_i hrun
    rw [firingRun_concat, if_neg hrun]
    rfl

theorem openingTime_next (hprevious : previousAlert.first? = some previous)
    (hrecords : Records (before ++ [previous.toReport]) previous) :
    report.calculateFiringTimeSinceLastResolved previousAlert =
      openingTime (before ++ [previous.toReport] ++ [report]) := by
  have htime : truthy previous.firingStartTimeSinceLastResolved =
      openingTime (before ++ [previous.toReport]) := by
    rw [hrecords.firingStartTimeSinceLastResolved]
    exact truthy_lastReceived _
  unfold Report.calculateFiringTimeSinceLastResolved
  simp only [hprevious, htime]
  unfold openingTime
  rw [sinceResolved_concat _ report, sinceResolved_concat before]
  rcases Classical.em (report.status = .resolved) with hresolved | hresolved
  · simp [hresolved]
  · rw [if_neg hresolved, if_neg hresolved]
    rcases Classical.em (previous.status = .resolved) with hclosed | hclosed
    · -- a new stretch opens with this report
      cases hstatus : report.status <;> simp [Option.filter_some, hclosed, hstatus]
    · -- the stretch goes on, and opens as it did
      simp [hclosed]

/-- One more alert records the history, if the one before it did. -/
theorem records_next (hprevious : previousAlert.first? = some previous)
    (hrecords : Records (before ++ [previous.toReport]) previous) :
    Records (before ++ [previous.toReport] ++ [report]) (report.tracked previousAlert) where
  firingCounter := firingCounter_next hprevious hrecords
  unresolvedCounter := unresolvedCounter_next hprevious hrecords
  firingStartTime := firingStartTime_next hprevious hrecords
  firingStartTimeSinceLastResolved := openingTime_next hprevious hrecords

end

/-!
## Whole histories
-/

theorem records_tracked (past : List Arrival) (arrival : Arrival) :
    Records ((past ++ [arrival]).map Arrival.report)
      (arrival.tracked (trackedHistory past)) := by
  induction past using List.reverseRecOn generalizing arrival with
  | nil => exact records_first (first?_previousOf arrival.asList [])
  | append_singleton past last ih =>
      have hprevious :
          (previousOf arrival.asList (trackedHistory (past ++ [last]))).first? =
            some (last.tracked (trackedHistory past)) := by
        rw [first?_previousOf, trackedHistory_concat]
        rfl
      have hlast := ih last
      rw [List.map_append] at hlast
      rw [List.map_append, List.map_append]
      exact records_next hprevious hlast

theorem head?_filter_eq_find?_iff {reports : List Report} :
    (reports.head?.filter fun report => report.status = .firing).map Report.lastReceived =
        (reports.find? fun report => report.status = .firing).map Report.lastReceived <->
      OpensFiring reports := by
  cases reports with
  | nil => simp [OpensFiring]
  | cons first rest =>
      rcases Classical.em (first.status = .firing) with hfirst | hfirst
      · simp [OpensFiring, hfirst]
      · have hnone : (first :: rest).head?.filter (fun r => r.status = .firing) = none := by
          simp [Option.filter_some, hfirst]
        rw [hnone, Option.map_none, eq_comm, Option.map_eq_none_iff]
        simp [OpensFiring, hfirst]

theorem describes_iff_opensFiring {history : List Report} {alert : TrackedAlert}
    (hrecords : Records history alert)
    (hresolved : alert.status = .resolved -> sinceResolved history = []) :
    Describes history alert <-> OpensFiring (sinceResolved history) := by
  have htime := hrecords.firingStartTimeSinceLastResolved
  constructor
  · intro h
    rcases Classical.em (alert.status = .resolved) with hstatus | hstatus
    · rw [hresolved hstatus]
      simp [OpensFiring]
    · exact head?_filter_eq_find?_iff.mp
        (htime.symm.trans (h.firingStartTimeSinceLastResolved hstatus))
  · intro hopens
    constructor
    · exact hrecords.firingCounter
    · exact hrecords.unresolvedCounter
    · exact hrecords.firingStartTime
    · intro _
      exact htime.trans (head?_filter_eq_find?_iff.mpr hopens)

/-- The alerts of a history describe it exactly when no firing report comes after others that
are neither firing nor resolved, with none that fires before it. -/
theorem describesThroughout_iff (history : List Arrival) :
    DescribesThroughout history <-> OpensFiringThroughout history := by
  have hmoment (past : List Arrival) (arrival : Arrival) :
      Describes ((past ++ [arrival]).map Arrival.report)
          (arrival.tracked (trackedHistory past)) <->
        OpensFiring (sinceResolved ((past ++ [arrival]).map Arrival.report)) := by
    apply describes_iff_opensFiring (records_tracked past arrival)
    intro hresolved
    rw [List.map_append]
    exact (sinceResolved_concat _ arrival.report).trans (if_pos hresolved)
  constructor
  · intro h past arrival rest hhistory
    exact (hmoment past arrival).mp (h past arrival rest hhistory)
  · intro h past arrival rest hhistory
    exact (hmoment past arrival).mpr (h past arrival rest hhistory)

/-- An alert that fires only after it was acknowledged has no firing time. -/
theorem acknowledged_firing_not_describesThroughout :
    ¬ DescribesThroughout
      [⟨⟨.acknowledged, "2024-01-01T00:00:00.000Z", by decide⟩, false⟩,
        ⟨⟨.firing, "2024-01-01T00:05:00.000Z", by decide⟩, false⟩] := by
  intro h
  have hfiring := (h [_] _ [] rfl).firingStartTimeSinceLastResolved (by decide)
  exact absurd hfiring (by decide)

end Enrichments
end KeepGateway
