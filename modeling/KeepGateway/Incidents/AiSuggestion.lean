import KeepGateway.Incidents.Store
import Mathlib.Data.List.Forall2

/-!
# Suggested incidents

`suggest_incidents` of `ai_suggestion_bl.py`.  The clustering that the model returns is stored
under a hash of the fingerprints, and read by positions in the list of alerts; a later call with
the same fingerprints reads the stored one.  `φ` is the type of the scores.
-/

namespace KeepGateway
namespace Incidents
namespace Suggestions

variable {φ : Type}

/-- The attribute `service`, which `AlertDto` does not declare.  A value that has a hash is given
by its text. -/
inductive Service where
  | missing
  | empty
  | value (text : String)
  | unhashable
  deriving DecidableEq, Repr

structure AlertDto where
  id : Option String
  fingerprint : String
  lastReceived : String
  source : Option (List String)
  service : Service
  deriving DecidableEq, Repr

structure IncidentCandidate (φ : Type) where
  incidentName : String
  alerts : List Int
  reasoning : String
  severity : String
  recommendedActions : List String
  confidenceScore : φ
  confidenceExplanation : String

structure IncidentClustering (φ : Type) where
  incidents : List (IncidentCandidate φ)

/-- The random id is left out; `alertSources` and `services` are in no particular order. -/
structure IncidentDto (φ : Type) where
  name : String
  startTime : Int
  lastSeenTime : Int
  description : String
  confidenceScore : φ
  confidenceExplanation : String
  severity : IncidentSeverity
  alertIds : List (Option String)
  recommendedActions : List String
  isPredicted : Bool
  isCandidate : Bool
  alertsCount : Nat
  alertSources : List String
  alerts : List AlertDto
  services : List String

/-- A row of `aisuggestion` with the type `incident_suggestion`. -/
structure AISuggestion (φ : Type) where
  id : String
  tenantId : String
  userId : String
  suggestionInput : List String
  suggestionInputHash : String
  suggestionContent : IncidentClustering φ
  model : String

structure IncidentsClusteringSuggestion (φ : Type) where
  incidentSuggestion : List (IncidentDto φ)
  suggestionId : String

/-- What the reading of a clustering raises. -/
inductive ReadingError where
  | indexError
  | attributeError
  | typeError
  | valueError
  | validationError
  deriving DecidableEq, Repr

inductive Raised where
  | httpException (status : Nat) (detail : String)
  | reading (error : ReadingError)
  deriving DecidableEq, Repr

/-- The caller and the configured model, `hash_suggestion_input`, and how a field of the type
`datetime` reads a text. -/
structure Context where
  tenantId : String
  userId : String
  modelName : String
  hashSuggestionInput : List String -> String
  parseDatetime : String -> Option Int

/-- What happens to a call: the clustering that the model returns, unless something before raises
or the answer does not parse; whether the row is saved, and its id. -/
structure Completion (φ : Type) where
  clustering : Option (IncidentClustering φ)
  isSaved : Bool
  newId : String

/-!
## Reading a clustering
-/

/-- `alerts_dto[i]`, where a negative index counts from the end. -/
def alertAt (alertsDto : List AlertDto) (i : Int) : Except ReadingError AlertDto :=
  let found :=
    if 0 ≤ i then alertsDto[i.toNat]?
    else if 0 ≤ i + alertsDto.length then alertsDto[(i + alertsDto.length).toNat]?
    else none
  match found with
  | some alert => .ok alert
  | none => .error .indexError

/-- `min` of texts -/
def earliest : List String -> Option String
  | [] => none
  | text :: rest =>
      some (rest.foldl (fun least other => if other < least then other else least) text)

/-- `max` of texts -/
def latest : List String -> Option String
  | [] => none
  | text :: rest => some (rest.foldl (fun most other => if most < other then other else most) text)

/-- The first loop over the numbers of an incident, for one of them. -/
def collect (alertsDto : List AlertDto) (sets : List String × List String) (alertIndex : Int) :
    Except ReadingError (List String × List String) := do
  let alert ← alertAt alertsDto (alertIndex - 1)
  let sources :=
    match alert.source with
    | some (source :: _) => sets.1.insert source
    | _ => sets.1
  match alert.service with
  | .missing => throw .attributeError
  | .empty => return (sources, sets.2)
  | .value text => return (sources, sets.2.insert text)
  | .unhashable => throw .typeError

/-- The times of the incident and its DTO, once its alerts are there. -/
def buildIncident (ctx : Context) (incident : IncidentCandidate φ)
    (sets : List String × List String) (incidentAlerts : List AlertDto) :
    Except ReadingError (IncidentDto φ) :=
  let lastReceived := incidentAlerts.map AlertDto.lastReceived
  match earliest lastReceived, latest lastReceived with
  | some first, some last =>
      match ctx.parseDatetime first, ctx.parseDatetime last,
        IncidentSeverity.ofValue incident.severity with
      | some startTime, some lastSeenTime, .ok severity =>
          .ok {
            name := incident.incidentName
            startTime := startTime
            lastSeenTime := lastSeenTime
            description := incident.reasoning
            confidenceScore := incident.confidenceScore
            confidenceExplanation := incident.confidenceExplanation
            severity := severity
            alertIds := incidentAlerts.map AlertDto.id
            recommendedActions := incident.recommendedActions
            isPredicted := true
            isCandidate := true
            alertsCount := incident.alerts.length
            alertSources := sets.1
            alerts := incidentAlerts
            services := sets.2 }
      | _, _, _ => .error .validationError
  | _, _ => .error .valueError

/-- The body of the loop over the incidents. -/
def processIncident (ctx : Context) (alertsDto : List AlertDto) (incident : IncidentCandidate φ) :
    Except ReadingError (IncidentDto φ) := do
  let sets ← incident.alerts.foldlM (collect alertsDto) ([], [])
  let incidentAlerts ← incident.alerts.mapM fun i => alertAt alertsDto (i - 1)
  buildIncident ctx incident sets incidentAlerts

/-- `_process_incidents` -/
def processIncidents (ctx : Context) (incidents : List (IncidentCandidate φ))
    (alertsDto : List AlertDto) : Except ReadingError (List (IncidentDto φ)) :=
  incidents.mapM (processIncident ctx alertsDto)

/-!
## A call
-/

def suggestionInput (alertsDto : List AlertDto) : List String := alertsDto.map AlertDto.fingerprint

/-- `get_suggestion_by_input` -/
def getSuggestionByInput (ctx : Context) (input : List String) (db : List (AISuggestion φ)) :
    Option (AISuggestion φ) :=
  db.find? fun suggestion =>
    suggestion.tenantId == ctx.tenantId &&
      suggestion.suggestionInputHash == ctx.hashSuggestionInput input

/-- The row that `add_suggestion` adds. -/
def newSuggestion (ctx : Context) (id : String) (input : List String)
    (content : IncidentClustering φ) : AISuggestion φ where
  id := id
  tenantId := ctx.tenantId
  userId := ctx.userId
  suggestionInput := input
  suggestionInputHash := ctx.hashSuggestionInput input
  suggestionContent := content
  model := ctx.modelName

/-- What every exception becomes after the lookup. -/
def unavailable : Raised := .httpException 500 "AI service is unavailable."

def suggestIncidents (ctx : Context) (alertsDto : List AlertDto) (completion : Completion φ)
    (db : List (AISuggestion φ)) :
    Except Raised (IncidentsClusteringSuggestion φ) × List (AISuggestion φ) :=
  if 50 < alertsDto.length then
    (.error (.httpException 400 "Too many alerts to process"), db)
  else
    let input := suggestionInput alertsDto
    match getSuggestionByInput ctx input db with
    | some existing =>
        match processIncidents ctx existing.suggestionContent.incidents alertsDto with
        | .error error => (.error (.reading error), db)
        | .ok incidents => (.ok ⟨incidents, existing.id⟩, db)
    | none =>
        match completion.clustering, completion.isSaved with
        | some clustering, true =>
            let suggestion := newSuggestion ctx completion.newId input clustering
            let db := db ++ [suggestion]
            match processIncidents ctx clustering.incidents alertsDto with
            | .error _ => (.error unavailable, db)
            | .ok incidents => (.ok ⟨incidents, suggestion.id⟩, db)
        | _, _ => (.error unavailable, db)

/-!
## What a call should leave and return
-/

/-- The alert at a position, counted from 1. -/
def AtPosition (alertsDto : List AlertDto) (number : Int) (alert : AlertDto) : Prop :=
  1 ≤ number ∧ alertsDto[number.toNat - 1]? = some alert

/-- Each incident has the alerts at the positions that were listed for it. -/
def HasListed (alertsDto : List AlertDto) (candidates : List (IncidentCandidate φ))
    (incidents : List (IncidentDto φ)) : Prop :=
  List.Forall₂ (fun candidate incident =>
    List.Forall₂ (AtPosition alertsDto) candidate.alerts incident.alerts) candidates incidents

/-- The clustering that a call reads: the stored one, or what the model returns. -/
def readClustering (ctx : Context) (alertsDto : List AlertDto) (completion : Completion φ)
    (db : List (AISuggestion φ)) : Option (IncidentClustering φ) :=
  match getSuggestionByInput ctx (suggestionInput alertsDto) db with
  | some existing => some existing.suggestionContent
  | none => if completion.isSaved then completion.clustering else none

/-- A call that raises stores nothing, and leaves the next one to ask the model; one that returns
gives each incident the alerts at its positions. -/
structure LeavesNoTrace (ctx : Context) (alertsDto : List AlertDto) (completion : Completion φ)
    (db : List (AISuggestion φ)) : Prop where
  raised : forall error, (suggestIncidents ctx alertsDto completion db).1 = .error error ->
    (suggestIncidents ctx alertsDto completion db).2 = db ∧
      getSuggestionByInput ctx (suggestionInput alertsDto)
        (suggestIncidents ctx alertsDto completion db).2 = none
  returned : forall suggestion,
    (suggestIncidents ctx alertsDto completion db).1 = .ok suggestion ->
      exists clustering, readClustering ctx alertsDto completion db = some clustering ∧
        HasListed alertsDto clustering.incidents suggestion.incidentSuggestion

/-- The loop over the numbers of an incident passes the alert. -/
def Service.IsCollected : Service -> Prop
  | .empty => True
  | .value _ => True
  | .missing => False
  | .unhashable => False

/-- The earliest and the latest of the times can be read. -/
def HasTimes (ctx : Context) (alerts : List AlertDto) : Prop :=
  exists first last, earliest (alerts.map AlertDto.lastReceived) = some first ∧
    latest (alerts.map AlertDto.lastReceived) = some last ∧
    (ctx.parseDatetime first).isSome = true ∧ (ctx.parseDatetime last).isSome = true

/-- An incident that lists positions of alerts, one at least, which can be collected, have
readable times, and come with one of the severities. -/
structure IsReadable (ctx : Context) (alertsDto : List AlertDto)
    (candidate : IncidentCandidate φ) : Prop where
  listed : exists alerts, List.Forall₂ (AtPosition alertsDto) candidate.alerts alerts ∧
    (forall alert, alert ∈ alerts -> alert.service.IsCollected) ∧ HasTimes ctx alerts
  severity : exists severity, IncidentSeverity.ofValue candidate.severity = .ok severity

/-- What the call reads is readable, or it comes to nothing that it could read. -/
def ReadsWell (ctx : Context) (alertsDto : List AlertDto) (completion : Completion φ)
    (db : List (AISuggestion φ)) : Prop :=
  forall clustering, readClustering ctx alertsDto completion db = some clustering ->
    forall candidate, candidate ∈ clustering.incidents -> IsReadable ctx alertsDto candidate

/-!
## One number
-/

theorem alertAt_of_pos {alertsDto : List AlertDto} {number : Int} (h : 1 ≤ number)
    {alert : AlertDto} :
    alertAt alertsDto (number - 1) = .ok alert <-> AtPosition alertsDto number alert := by
  have hnat : (number - 1).toNat = number.toNat - 1 := by omega
  have hsign : 0 ≤ number - 1 := by omega
  unfold alertAt AtPosition
  simp only [if_pos hsign, hnat]
  cases alertsDto[number.toNat - 1]? with
  | none => exact iff_of_false (fun hok => by cases hok) (fun hok => by cases hok.2)
  | some found => simp [h]

theorem collect_isOk {alertsDto : List AlertDto} (sets : List String × List String)
    (number : Int) :
    (exists sets', collect alertsDto sets number = .ok sets') <->
      exists alert, alertAt alertsDto (number - 1) = .ok alert ∧ alert.service.IsCollected := by
  unfold collect
  cases halert : alertAt alertsDto (number - 1) with
  | error error =>
      constructor
      · rintro ⟨_, h⟩
        cases h
      · rintro ⟨_, h, _⟩
        cases h
  | ok alert =>
      constructor
      · rintro ⟨sets', h⟩
        refine ⟨alert, rfl, ?_⟩
        rcases bind_eq_ok.mp h with ⟨_, heq, h⟩
        cases heq
        cases hservice : alert.service with
        | missing =>
            simp only [hservice] at h
            cases h
        | empty => trivial
        | value text => trivial
        | unhashable =>
            simp only [hservice] at h
            cases h
      · rintro ⟨_, heq, hservice⟩
        cases heq
        cases hkind : alert.service with
        | missing =>
            rw [hkind] at hservice
            cases hservice
        | empty => exact ⟨_, bind_eq_ok.mpr ⟨alert, rfl, by simp only [hkind]; rfl⟩⟩
        | value text => exact ⟨_, bind_eq_ok.mpr ⟨alert, rfl, by simp only [hkind]; rfl⟩⟩
        | unhashable =>
            rw [hkind] at hservice
            cases hservice

/-!
## One incident
-/

/-- The incident is read, with these alerts, whatever the signs of its numbers. -/
structure Reads (ctx : Context) (alertsDto : List AlertDto) (candidate : IncidentCandidate φ)
    (alerts : List AlertDto) : Prop where
  found : List.Forall₂ (fun (number : Int) alert => alertAt alertsDto (number - 1) = .ok alert)
    candidate.alerts alerts
  collected : forall alert, alert ∈ alerts -> alert.service.IsCollected
  times : HasTimes ctx alerts
  severity : exists severity, IncidentSeverity.ofValue candidate.severity = .ok severity

section OneIncident

variable {ctx : Context} {alertsDto : List AlertDto} {candidate : IncidentCandidate φ}

/-- The first loop passes where the alerts that the numbers lead to can be collected. -/
theorem foldlM_collect_isOk {numbers : List Int} {alerts : List AlertDto}
    (h : List.Forall₂ (fun (number : Int) alert => alertAt alertsDto (number - 1) = .ok alert)
      numbers alerts) :
    (exists sets, numbers.foldlM (collect alertsDto) ([], []) = .ok sets) <->
      forall alert, alert ∈ alerts -> alert.service.IsCollected := by
  rw [foldlM_isOk collect_isOk]
  induction h with
  | nil => simp
  | cons hfirst _ ih =>
      rw [List.forall_mem_cons, List.forall_mem_cons, ih, hfirst]
      simp only [Except.ok.injEq, exists_eq_left']

theorem buildIncident_ok {sets : List String × List String} {alerts : List AlertDto}
    {incident : IncidentDto φ} (h : buildIncident ctx candidate sets alerts = .ok incident) :
    incident.alerts = alerts ∧ HasTimes ctx alerts ∧
      exists severity, IncidentSeverity.ofValue candidate.severity = .ok severity := by
  unfold buildIncident at h
  dsimp only at h
  split at h
  · rename_i first last hfirst hlast
    split at h
    · rename_i startTime lastSeenTime severity hstart hseen hseverity
      cases h
      refine ⟨rfl, ⟨first, last, hfirst, hlast, ?_, ?_⟩, severity, hseverity⟩
      · exact Option.isSome_of_eq_some hstart
      · exact Option.isSome_of_eq_some hseen
    · cases h
  · cases h

theorem buildIncident_isOk {alerts : List AlertDto} (htimes : HasTimes ctx alerts)
    (hseverity : exists severity, IncidentSeverity.ofValue candidate.severity = .ok severity)
    (sets : List String × List String) :
    exists incident, buildIncident ctx candidate sets alerts = .ok incident := by
  rcases htimes with ⟨first, last, hfirst, hlast, hstart, hseen⟩
  rcases Option.isSome_iff_exists.mp hstart with ⟨startTime, hstart⟩
  rcases Option.isSome_iff_exists.mp hseen with ⟨lastSeenTime, hseen⟩
  rcases hseverity with ⟨severity, hseverity⟩
  unfold buildIncident
  simp only [hfirst, hlast, hstart, hseen, hseverity]
  exact ⟨_, rfl⟩

theorem reads_of_processIncident {incident : IncidentDto φ}
    (h : processIncident ctx alertsDto candidate = .ok incident) :
    Reads ctx alertsDto candidate incident.alerts := by
  rcases bind_eq_ok.mp h with ⟨sets, hsets, h⟩
  rcases bind_eq_ok.mp h with ⟨alerts, halerts, h⟩
  rcases buildIncident_ok h with ⟨rfl, htimes, hseverity⟩
  have hfound := mapM_eq_ok.mp halerts
  exact ⟨hfound, (foldlM_collect_isOk hfound).mp ⟨sets, hsets⟩, htimes, hseverity⟩

theorem Reads.processIncident {alerts : List AlertDto}
    (h : Reads ctx alertsDto candidate alerts) :
    exists incident, processIncident ctx alertsDto candidate = .ok incident := by
  rcases (foldlM_collect_isOk h.found).mpr h.collected with ⟨sets, hsets⟩
  rcases buildIncident_isOk h.times h.severity sets with ⟨incident, hincident⟩
  exact ⟨incident, bind_eq_ok.mpr ⟨sets, hsets,
    bind_eq_ok.mpr ⟨alerts, mapM_eq_ok.mpr h.found, hincident⟩⟩⟩

/-- Numbers from 1 on lead to the alerts at their positions. -/
theorem forall₂_alertAt {numbers : List Int} {alerts : List AlertDto} :
    List.Forall₂ (AtPosition alertsDto) numbers alerts <->
      List.Forall₂ (fun (number : Int) alert => alertAt alertsDto (number - 1) = .ok alert)
          numbers alerts ∧
        forall number, number ∈ numbers -> 1 ≤ number := by
  induction numbers generalizing alerts with
  | nil => simp
  | cons number rest ih =>
      simp only [List.forall₂_cons_left_iff, List.forall_mem_cons, ih]
      constructor
      · rintro ⟨alert, alerts', halert, ⟨hrest, hpos⟩, heq⟩
        exact ⟨⟨alert, alerts', (alertAt_of_pos halert.1).mpr halert, hrest, heq⟩, halert.1, hpos⟩
      · rintro ⟨⟨alert, alerts', halert, hrest, heq⟩, hfirst, hpos⟩
        exact ⟨alert, alerts', (alertAt_of_pos hfirst).mp halert, ⟨hrest, hpos⟩, heq⟩

/-- An incident is readable where it is read, with alerts at the positions it lists. -/
theorem isReadable_iff :
    IsReadable ctx alertsDto candidate <->
      exists incident, Suggestions.processIncident ctx alertsDto candidate = .ok incident ∧
        List.Forall₂ (AtPosition alertsDto) candidate.alerts incident.alerts := by
  constructor
  · rintro ⟨⟨alerts, hlisted, hcollected, htimes⟩, hseverity⟩
    rcases forall₂_alertAt.mp hlisted with ⟨hfound, hpos⟩
    rcases Reads.processIncident ⟨hfound, hcollected, htimes, hseverity⟩ with
      ⟨incident, hincident⟩
    have hread := reads_of_processIncident hincident
    exact ⟨incident, hincident, forall₂_alertAt.mpr ⟨hread.found, hpos⟩⟩
  · rintro ⟨incident, hincident, hlisted⟩
    have hread := reads_of_processIncident hincident
    exact ⟨⟨incident.alerts, hlisted, hread.collected, hread.times⟩, hread.severity⟩

end OneIncident

/-!
## One call
-/

section OneCall

variable {ctx : Context} {alertsDto : List AlertDto}

theorem forall_isReadable_iff {candidates : List (IncidentCandidate φ)} :
    (forall candidate, candidate ∈ candidates -> IsReadable ctx alertsDto candidate) <->
      exists incidents, processIncidents ctx candidates alertsDto = .ok incidents ∧
        HasListed alertsDto candidates incidents := by
  unfold processIncidents HasListed
  induction candidates with
  | nil => exact iff_of_true (fun _ h => absurd h List.not_mem_nil) ⟨[], rfl, .nil⟩
  | cons candidate rest ih =>
      simp only [mapM_eq_ok] at ih ⊢
      rw [List.forall_mem_cons, isReadable_iff, ih]
      constructor
      · rintro ⟨⟨incident, hincident, hlisted⟩, incidents, hincidents, hrest⟩
        exact ⟨incident :: incidents, .cons hincident hincidents, .cons hlisted hrest⟩
      · rintro ⟨incidents, hincidents, hlisted⟩
        rcases List.forall₂_cons_left_iff.mp hincidents with
          ⟨incident, others, hincident, hrest, rfl⟩
        rcases List.forall₂_cons.mp hlisted with ⟨hfirst, hothers⟩
        exact ⟨⟨incident, hincident, hfirst⟩, others, hrest, hothers⟩

/-- Where the incidents are read, they are readable if each has the alerts listed for it. -/
theorem forall_isReadable_of_ok {candidates : List (IncidentCandidate φ)}
    {incidents : List (IncidentDto φ)}
    (h : processIncidents ctx candidates alertsDto = .ok incidents) :
    (forall candidate, candidate ∈ candidates -> IsReadable ctx alertsDto candidate) <->
      HasListed alertsDto candidates incidents := by
  rw [forall_isReadable_iff, h]
  simp only [Except.ok.injEq, exists_eq_left']

theorem not_forall_isReadable_of_error {candidates : List (IncidentCandidate φ)}
    {error : ReadingError} (h : processIncidents ctx candidates alertsDto = .error error) :
    ¬ forall candidate, candidate ∈ candidates -> IsReadable ctx alertsDto candidate := by
  rw [forall_isReadable_iff, h]
  rintro ⟨incidents, hok, _⟩
  cases hok

variable {completion : Completion φ} {db : List (AISuggestion φ)}

/-- A new row is found for its input. -/
theorem getSuggestionByInput_new {input : List String}
    (h : getSuggestionByInput ctx input db = none) (id : String) (content : IncidentClustering φ) :
    getSuggestionByInput ctx input (db ++ [newSuggestion ctx id input content]) =
      some (newSuggestion ctx id input content) := by
  unfold getSuggestionByInput at h ⊢
  rw [List.find?_append, h, List.find?_singleton]
  simp [newSuggestion]

/-- A call that comes to no clustering stores nothing. -/
theorem suggestIncidents_nothing (hfew : ¬ 50 < alertsDto.length)
    (h : readClustering ctx alertsDto completion db = none) :
    suggestIncidents ctx alertsDto completion db = (.error unavailable, db) ∧
      getSuggestionByInput ctx (suggestionInput alertsDto) db = none := by
  unfold readClustering at h
  unfold suggestIncidents
  rw [if_neg hfew]
  cases hstored : getSuggestionByInput ctx (suggestionInput alertsDto) db with
  | some existing =>
      rw [hstored] at h
      cases h
  | none =>
      rw [hstored] at h
      refine ⟨?_, rfl⟩
      simp only [hstored]
      cases hsaved : completion.isSaved with
      | false =>
          cases completion.clustering with
          | none => rfl
          | some clustering => rfl
      | true =>
          dsimp only at h
          rw [if_pos hsaved] at h
          rw [h]

/-- The clustering of a call is the stored one, or one that it saves. -/
theorem readClustering_cases {clustering : IncidentClustering φ}
    (h : readClustering ctx alertsDto completion db = some clustering) :
    (exists existing, getSuggestionByInput ctx (suggestionInput alertsDto) db = some existing ∧
      existing.suggestionContent = clustering) ∨
    (getSuggestionByInput ctx (suggestionInput alertsDto) db = none ∧
      completion.isSaved = true ∧ completion.clustering = some clustering) := by
  unfold readClustering at h
  cases hstored : getSuggestionByInput ctx (suggestionInput alertsDto) db with
  | some existing =>
      rw [hstored] at h
      exact Or.inl ⟨existing, rfl, Option.some.inj h⟩
  | none =>
      rw [hstored] at h
      dsimp only at h
      split at h
      · rename_i hsaved
        exact Or.inr ⟨rfl, hsaved, h⟩
      · cases h

theorem suggestIncidents_ok (hfew : ¬ 50 < alertsDto.length) {clustering : IncidentClustering φ}
    (h : readClustering ctx alertsDto completion db = some clustering)
    {incidents : List (IncidentDto φ)}
    (hread : processIncidents ctx clustering.incidents alertsDto = .ok incidents) :
    exists id, (suggestIncidents ctx alertsDto completion db).1 = .ok ⟨incidents, id⟩ := by
  unfold suggestIncidents
  rw [if_neg hfew]
  rcases readClustering_cases h with ⟨existing, hstored, heq⟩ | ⟨hstored, hsaved, hclustering⟩
  · rw [← heq] at hread
    simp only [hstored, hread]
    exact ⟨existing.id, rfl⟩
  · simp only [hstored, hclustering, hsaved, hread]
    exact ⟨completion.newId, rfl⟩

/-- What cannot be read has been stored. -/
theorem suggestIncidents_error (hfew : ¬ 50 < alertsDto.length)
    {clustering : IncidentClustering φ}
    (h : readClustering ctx alertsDto completion db = some clustering) {error : ReadingError}
    (hread : processIncidents ctx clustering.incidents alertsDto = .error error) :
    (exists raised, (suggestIncidents ctx alertsDto completion db).1 = .error raised) ∧
      getSuggestionByInput ctx (suggestionInput alertsDto)
        (suggestIncidents ctx alertsDto completion db).2 ≠ none := by
  unfold suggestIncidents
  rw [if_neg hfew]
  rcases readClustering_cases h with ⟨existing, hstored, heq⟩ | ⟨hstored, hsaved, hclustering⟩
  · rw [← heq] at hread
    simp only [hstored, hread]
    exact ⟨⟨.reading error, rfl⟩, Option.some_ne_none existing⟩
  · simp only [hstored, hclustering, hsaved, hread]
    refine ⟨⟨unavailable, rfl⟩, ?_⟩
    rw [getSuggestionByInput_new hstored]
    exact Option.some_ne_none _

end OneCall

/-- A call leaves no trace of a bad answer, and does not misread it, exactly where what it reads
is readable. -/
theorem leavesNoTrace_iff {ctx : Context} {alertsDto : List AlertDto}
    (hlength : alertsDto.length ≤ 50) (completion : Completion φ) (db : List (AISuggestion φ)) :
    LeavesNoTrace ctx alertsDto completion db <-> ReadsWell ctx alertsDto completion db := by
  have hfew : ¬ 50 < alertsDto.length := Nat.not_lt.mpr hlength
  unfold ReadsWell
  cases hclustering : readClustering ctx alertsDto completion db with
  | none =>
      rcases suggestIncidents_nothing hfew hclustering with ⟨hcall, hnone⟩
      refine iff_of_true ⟨?_, ?_⟩ ?_
      · intro error _
        rw [hcall]
        exact ⟨rfl, hnone⟩
      · intro suggestion h
        rw [hcall] at h
        cases h
      · intro clustering h
        cases h
  | some clustering =>
      simp only [Option.some.injEq, forall_eq']
      cases hread : processIncidents ctx clustering.incidents alertsDto with
      | error error =>
          rcases suggestIncidents_error hfew hclustering hread with ⟨⟨raised, hraised⟩, hstored⟩
          refine iff_of_false (fun h => ?_) (not_forall_isReadable_of_error hread)
          exact hstored (h.raised raised hraised).2
      | ok incidents =>
          rcases suggestIncidents_ok hfew hclustering hread with ⟨id, hok⟩
          rw [forall_isReadable_of_ok hread]
          constructor
          · intro h
            rcases h.returned _ hok with ⟨clustering', heq, hlisted⟩
            rw [hclustering] at heq
            cases heq
            exact hlisted
          · intro hlisted
            refine ⟨?_, ?_⟩
            · intro error h
              rw [hok] at h
              cases h
            · intro suggestion h
              rw [hok] at h
              cases h
              exact ⟨clustering, hclustering, hlisted⟩

/-!
## Two answers
-/

section Runs

def caller : Context where
  tenantId := "keep"
  userId := "user@keep"
  modelName := "gpt-4o-2024-08-06"
  hashSuggestionInput := fun input => String.intercalate "," input
  parseDatetime := fun _ => some 0

def alertOf (fingerprint : String) : AlertDto where
  id := some fingerprint
  fingerprint := fingerprint
  lastReceived := "2026-01-01T00:00:00.000Z"
  source := some ["prometheus"]
  service := .value "api"

def twoAlerts : List AlertDto := [alertOf "a", alertOf "b"]

/-- The model returns one incident with these numbers. -/
def answering (numbers : List Int) : Completion Nat where
  clustering := some ⟨[{
    incidentName := "Outage"
    alerts := numbers
    reasoning := ""
    severity := "high"
    recommendedActions := []
    confidenceScore := 1
    confidenceExplanation := "" }]⟩
  isSaved := true
  newId := "s"

/-- Positions of alerts are read as they are meant. -/
theorem bothAlerts_leavesNoTrace : LeavesNoTrace caller twoAlerts (answering [2, 1]) [] := by
  refine (leavesNoTrace_iff (by decide) _ _).mpr ?_
  intro clustering h candidate hmem
  cases h
  cases List.mem_singleton.mp hmem
  refine ⟨⟨[alertOf "b", alertOf "a"], ?_, ?_, _, _, rfl, rfl, rfl, rfl⟩, .high, rfl⟩
  · exact .cons ⟨by decide, rfl⟩ (.cons ⟨by decide, rfl⟩ .nil)
  · intro alert halert
    rcases List.mem_cons.mp halert with h | h
    · rw [h]
      trivial
    · rw [List.mem_singleton.mp h]
      trivial

/-- The number 0 is read as the last alert, and an incident without numbers is stored before it
cannot be read. -/
theorem badNumbers_not_leavesNoTrace :
    ¬ LeavesNoTrace caller twoAlerts (answering [0]) [] ∧
      ¬ LeavesNoTrace caller twoAlerts (answering []) [] := by
  constructor
  · intro h
    rcases h.returned _ rfl with ⟨clustering, heq, hlisted⟩
    cases heq
    rcases List.forall₂_cons.mp hlisted with ⟨hfirst, _⟩
    rcases List.forall₂_cons.mp hfirst with ⟨hposition, _⟩
    exact absurd hposition.1 (by decide)
  · intro h
    cases (h.raised unavailable rfl).2

end Runs

end Suggestions
end Incidents
end KeepGateway
