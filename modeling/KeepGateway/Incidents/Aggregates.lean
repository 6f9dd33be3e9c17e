import KeepGateway.Incidents.Store
import KeepGateway.Lib.Except
import KeepGateway.Lib.Run

/-!
# Incident aggregates

The aggregates of an incident along any sequence of successful calls.  The remove
step can only succeed when it leaves no link, since `get_int_severity` is not
defined, so it succeeds with everything removed.
-/

namespace KeepGateway
namespace Incidents

open Run

/-!
## Greatest severity
-/

/-- The severity that a last alert contributes to its incident. -/
def severityOrder (alerts : LastAlerts) (fingerprint : String) : Option Nat :=
  (nonEmpty (alerts fingerprint).severity).bind fun value =>
    (IncidentSeverity.ofValue value).toOption.map IncidentSeverity.order

/-- The greatest severity of some last alerts, `LOW` where there is none. -/
def greatestSeverity (alerts : LastAlerts) (fingerprints : List String) : Nat :=
  (fingerprints.filterMap (severityOrder alerts)).foldr max IncidentSeverity.low.order

theorem foldr_max_le {orders : List Nat} {least n : Nat} :
    orders.foldr max least <= n <-> least <= n ∧ forall order, order ∈ orders -> order <= n := by
  induction orders with
  | nil => simp
  | cons order rest ih =>
      rw [List.foldr_cons, Nat.max_le, ih, List.forall_mem_cons]
      constructor
      · rintro ⟨horder, hleast, hrest⟩
        exact ⟨hleast, horder, hrest⟩
      · rintro ⟨hleast, horder, hrest⟩
        exact ⟨horder, hleast, hrest⟩

theorem greatestSeverity_le {alerts : LastAlerts} {fingerprints : List String} {n : Nat} :
    greatestSeverity alerts fingerprints <= n <->
      IncidentSeverity.low.order <= n ∧
        forall f order, f ∈ fingerprints -> severityOrder alerts f = some order -> order <= n := by
  unfold greatestSeverity
  rw [foldr_max_le]
  apply and_congr_right
  intro _
  constructor
  · intro h f order hf horder
    exact h order (List.mem_filterMap.mpr ⟨f, hf, horder⟩)
  · intro h order horder
    rcases List.mem_filterMap.mp horder with ⟨f, hf, horder⟩
    exact h f order hf horder

theorem greatestSeverity_congr {alerts : LastAlerts} {a b : List String}
    (h : forall f, f ∈ a <-> f ∈ b) : greatestSeverity alerts a = greatestSeverity alerts b := by
  apply Nat.le_antisymm
  · apply greatestSeverity_le.mpr
    have hb := greatestSeverity_le.mp (Nat.le_refl (greatestSeverity alerts b))
    exact ⟨hb.1, fun f order hf horder => hb.2 f order ((h f).mp hf) horder⟩
  · apply greatestSeverity_le.mpr
    have ha := greatestSeverity_le.mp (Nat.le_refl (greatestSeverity alerts a))
    exact ⟨ha.1, fun f order hf horder => ha.2 f order ((h f).mpr hf) horder⟩

theorem greatestSeverity_append (alerts : LastAlerts) (a b : List String) :
    greatestSeverity alerts (a ++ b) =
      max (greatestSeverity alerts a) (greatestSeverity alerts b) := by
  apply Nat.le_antisymm
  · apply greatestSeverity_le.mpr
    have ha := greatestSeverity_le.mp (Nat.le_refl (greatestSeverity alerts a))
    have hb := greatestSeverity_le.mp (Nat.le_refl (greatestSeverity alerts b))
    refine ⟨Nat.le_trans ha.1 (Nat.le_max_left _ _), ?_⟩
    intro f order hf horder
    rcases List.mem_append.mp hf with hf | hf
    · exact Nat.le_trans (ha.2 f order hf horder) (Nat.le_max_left _ _)
    · exact Nat.le_trans (hb.2 f order hf horder) (Nat.le_max_right _ _)
  · have hboth := greatestSeverity_le.mp (Nat.le_refl (greatestSeverity alerts (a ++ b)))
    apply Nat.max_le.mpr
    constructor
    · apply greatestSeverity_le.mpr
      exact ⟨hboth.1, fun f order hf horder =>
        hboth.2 f order (List.mem_append_left _ hf) horder⟩
    · apply greatestSeverity_le.mpr
      exact ⟨hboth.1, fun f order hf horder =>
        hboth.2 f order (List.mem_append_right _ hf) horder⟩

theorem maxSeverity_order (severities : List IncidentSeverity) :
    (maxSeverity severities).order =
      (severities.map IncidentSeverity.order).foldr max IncidentSeverity.low.order := by
  have hfold : forall (rest : List IncidentSeverity) (first : IncidentSeverity),
      (rest.foldl (fun a b => if a.order < b.order then b else a) first).order =
        ((first :: rest).map IncidentSeverity.order).foldr max IncidentSeverity.low.order := by
    intro rest
    induction rest with
    | nil =>
        intro first
        cases first <;> rfl
    | cons second rest ih =>
        intro first
        rw [List.foldl_cons, ih]
        simp only [List.map_cons, List.foldr_cons]
        split
        · omega
        · omega
  cases severities with
  | nil => rfl
  | cons first rest => exact hfold rest first

/-!
## Aggregated data
-/

/-- A service of a last alert, as the aggregates count it. -/
def serviceOf (alerts : LastAlerts) (f : String) : Option String :=
  nonEmpty (alerts f).service

def sourceOf (alerts : LastAlerts) (f : String) : Option String :=
  nonEmpty (some (alerts f).providerType)

/-- What the aggregated data says about a list of fingerprints. -/
structure Aggregated (alerts : LastAlerts) (fingerprints : List String) (data : AlertsData) :
    Prop where
  services : forall s, s ∈ data.services <->
    exists f, f ∈ fingerprints ∧ serviceOf alerts f = some s
  sources : forall s, s ∈ data.sources <->
    exists f, f ∈ fingerprints ∧ sourceOf alerts f = some s
  severity : data.maxSeverity.order = greatestSeverity alerts fingerprints

theorem mapM_ofValue_order {values : List String} {severities : List IncidentSeverity}
    (h : values.mapM IncidentSeverity.ofValue = .ok severities) :
    severities.map IncidentSeverity.order = values.filterMap fun value =>
      (IncidentSeverity.ofValue value).toOption.map IncidentSeverity.order := by
  induction values generalizing severities with
  | nil =>
      cases h
      rfl
  | cons value rest ih =>
      rw [List.mapM_cons] at h
      rcases bind_eq_ok.mp h with ⟨severity, hvalue, h⟩
      rcases bind_eq_ok.mp h with ⟨others, hrest, h⟩
      cases h
      rw [List.map_cons, ih hrest]
      simp [hvalue, Except.toOption]

/-- A column of the rows of some fingerprints. -/
theorem mem_column {alerts : LastAlerts} {fingerprints : List String}
    {column : LastAlert -> Option String} {s : String} :
    s ∈ ((fingerprints.dedup.map alerts).filterMap column).dedup <->
      exists f, f ∈ fingerprints ∧ column (alerts f) = some s := by
  rw [List.mem_dedup, List.mem_filterMap]
  constructor
  · rintro ⟨row, hrow, hs⟩
    rcases List.mem_map.mp hrow with ⟨f, hf, heq⟩
    subst heq
    exact ⟨f, List.mem_dedup.mp hf, hs⟩
  · rintro ⟨f, hf, hs⟩
    exact ⟨alerts f, List.mem_map.mpr ⟨f, List.mem_dedup.mpr hf, rfl⟩, hs⟩

theorem getAlertsDataForIncident_ok {alerts : LastAlerts} {fingerprints : List String}
    {data : AlertsData} (h : getAlertsDataForIncident alerts fingerprints = .ok data) :
    Aggregated alerts fingerprints data := by
  unfold getAlertsDataForIncident at h
  rcases bind_eq_ok.mp h with ⟨severities, hseverities, h⟩
  cases h
  refine ⟨fun s => mem_column, fun s => mem_column, ?_⟩
  · have hdedup : greatestSeverity alerts fingerprints.dedup =
        greatestSeverity alerts fingerprints := greatestSeverity_congr fun f => List.mem_dedup
    rw [← hdedup]
    show (maxSeverity severities).order = _
    rw [maxSeverity_order, mapM_ofValue_order hseverities, List.filterMap_filterMap,
      List.filterMap_map]
    rfl

/-!
## Calls
-/

inductive Call where
  | add (fingerprints : List String) (excludeUnlinked : Bool)
  | remove (now : Nat) (fingerprints : List String)
  deriving DecidableEq, Repr

def Call.isAdd : Call -> Bool
  | add _ _ => true
  | remove _ _ => false

/-- A call that succeeds. -/
def step (alerts : LastAlerts) (id : Nat) (db : Db) : Call -> Option Db
  | .add fingerprints excludeUnlinked =>
      (addAlertsToIncident alerts db id fingerprints excludeUnlinked).toOption
  | .remove now fingerprints =>
      (removeAlertsToIncidentByIncidentId alerts now db id fingerprints).toOption.map Prod.fst

/-- The count, the services and the sources of an incident are those of its links. -/
structure Counted (alerts : LastAlerts) (db : Db) (id : Nat) (row : Incident) : Prop where
  found : db.find id = some row
  unforced : row.forcedSeverity = false
  count : row.alertsCount = (db.active id).length
  services : forall s, s ∈ row.affectedServices <->
    exists f, f ∈ db.active id ∧ serviceOf alerts f = some s
  sources : forall s, s ∈ row.sources <->
    exists f, f ∈ db.active id ∧ sourceOf alerts f = some s

structure Exact (alerts : LastAlerts) (db : Db) (id : Nat) (row : Incident) : Prop
    extends Counted alerts db id row where
  severity : row.severity = greatestSeverity alerts (db.active id)

/-- An incident with no links, and aggregates to match except for its severity. -/
structure Fresh (db : Db) (id : Nat) (row : Incident) : Prop where
  found : db.find id = some row
  unforced : row.forcedSeverity = false
  unlinked : db.active id = []
  count : row.alertsCount = 0
  services : row.affectedServices = []
  sources : row.sources = []

theorem Fresh.counted {db : Db} {id : Nat} {row : Incident} (h : Fresh db id row)
    (alerts : LastAlerts) : Counted alerts db id row where
  found := h.found
  unforced := h.unforced
  count := by rw [h.count, h.unlinked, List.length_nil]
  services := by simp [h.services, h.unlinked]
  sources := by simp [h.sources, h.unlinked]

theorem Db.find_setAggregates {db : Db} {id : Nat} {row : Incident} (h : db.find id = some row)
    (a : Aggregates) : (db.setAggregates id a).find id = some (row.setAggregates a) := by
  have hid : row.id = id := by simpa using List.find?_some h
  have hcomp : ((fun row : Incident => row.id == id) ∘
      fun row => if row.id = id then row.setAggregates a else row) =
        fun row : Incident => row.id == id := by
    funext other
    by_cases hother : other.id = id <;> simp [hother, Incident.setAggregates]
  unfold Db.find at h ⊢
  unfold Db.setAggregates Db.update
  rw [List.find?_map, hcomp, h, Option.map_some, if_pos hid]

/-- A successful add either links nothing and leaves the tables, or links alerts. -/
theorem addAlertsToIncident_ok {alerts : LastAlerts} {db db' : Db} {id : Nat} {row : Incident}
    {fingerprints : List String} {excludeUnlinked : Bool} (hfind : db.find id = some row)
    (h : addAlertsToIncident alerts db id fingerprints excludeUnlinked = .ok db') :
    db' = db ∨ exists new data, new ≠ [] ∧ Aggregated alerts new data ∧
      db' = (db.link id new).setAggregates id {
        alertsCount := ((db.link id new).active id).length
        affectedServices := (row.affectedServices ++ data.services).dedup
        severity :=
          if row.forcedSeverity then row.severity
          else if row.alertsCount ≠ 0 then max row.severity data.maxSeverity.order
          else data.maxSeverity.order
        sources := (row.sources ++ data.sources).dedup } := by
  simp only [addAlertsToIncident] at h
  split at h
  · cases h
    exact Or.inl rfl
  · rename_i hnew
    unfold updateAfterAdd at h
    rcases bind_eq_ok.mp h with ⟨data, hdata, h⟩
    have hlink : (db.link id (db.newFingerprints id fingerprints excludeUnlinked)).find id =
        some row := hfind
    rw [hlink] at h
    cases h
    exact Or.inr ⟨_, data, hnew, getAlertsDataForIncident_ok hdata, rfl⟩

theorem mapM_getIntSeverity {severities : List (Option String)} {orders : List Nat}
    (h : severities.mapM getIntSeverity = .ok orders) : severities = [] ∧ orders = [] := by
  cases severities with
  | nil =>
      cases h
      exact ⟨rfl, rfl⟩
  | cons severity rest =>
      rw [List.mapM_cons] at h
      rcases bind_eq_ok.mp h with ⟨order, horder, _⟩
      cases horder

theorem notInResult_nil (xs : List String) : notInResult xs [] = xs := by
  induction xs with
  | nil => rfl
  | cons x xs ih => simp [notInResult, ih]

/-- A successful remove leaves no link. -/
theorem removeAlerts_ok {alerts : LastAlerts} {db db' : Db} {now id : Nat} {row : Incident}
    {fingerprints : List String} {deleted : Option Nat} (hfind : db.find id = some row)
    (h : removeAlertsToIncidentByIncidentId alerts now db id fingerprints = .ok (db', deleted)) :
    (db.unlink now id fingerprints).active id = [] ∧
      exists data, Aggregated alerts fingerprints data ∧
        db' = (db.unlink now id fingerprints).setAggregates id {
          alertsCount := 0
          affectedServices := row.affectedServices.filter fun s => s ∉ data.services
          severity := if row.forcedSeverity then row.severity else IncidentSeverity.low.order
          sources := row.sources.filter fun s => s ∉ data.sources } := by
  unfold removeAlertsToIncidentByIncidentId at h
  rw [hfind] at h
  rcases bind_eq_ok.mp h with ⟨result, hupdate, h⟩
  cases h
  unfold updateAfterRemoval at hupdate
  rcases bind_eq_ok.mp hupdate with ⟨data, hdata, hupdate⟩
  rcases bind_eq_ok.mp hupdate with ⟨orders, horders, hupdate⟩
  rcases mapM_getIntSeverity horders with ⟨hremaining, horders⟩
  have hactive : (db.unlink now id fingerprints).active id = [] := by simpa using hremaining
  refine ⟨hactive, data, getAlertsDataForIncident_ok hdata, ?_⟩
  rw [horders, hactive] at hupdate
  cases hupdate
  simp [notInResult_nil]

theorem Counted.linked {alerts : LastAlerts} {db : Db} {id : Nat} {row : Incident}
    {new : List String} {data : AlertsData} (h : Counted alerts db id row)
    (hdata : Aggregated alerts new data) (severity : Nat) :
    Counted alerts
      ((db.link id new).setAggregates id {
        alertsCount := ((db.link id new).active id).length
        affectedServices := (row.affectedServices ++ data.services).dedup
        severity := severity
        sources := (row.sources ++ data.sources).dedup })
      id
      (row.setAggregates {
        alertsCount := ((db.link id new).active id).length
        affectedServices := (row.affectedServices ++ data.services).dedup
        severity := severity
        sources := (row.sources ++ data.sources).dedup }) := by
  have hactive : (db.link id new).active id = db.active id ++ new := by
    rw [Db.active_link, if_pos rfl]
  have hor : forall (column : String -> Option String) (s : String),
      ((exists f, f ∈ db.active id ∧ column f = some s) ∨
          exists f, f ∈ new ∧ column f = some s) <->
        exists f, f ∈ (db.link id new).active id ∧ column f = some s := by
    intro column s
    rw [hactive]
    constructor
    · rintro (⟨f, hf, hs⟩ | ⟨f, hf, hs⟩)
      · exact ⟨f, List.mem_append_left _ hf, hs⟩
      · exact ⟨f, List.mem_append_right _ hf, hs⟩
    · rintro ⟨f, hf, hs⟩
      rcases List.mem_append.mp hf with hf | hf
      · exact Or.inl ⟨f, hf, hs⟩
      · exact Or.inr ⟨f, hf, hs⟩
  refine ⟨Db.find_setAggregates h.found _, h.unforced, rfl, ?_, ?_⟩
  · intro s
    show s ∈ (row.affectedServices ++ data.services).dedup <-> _
    rw [List.mem_dedup, List.mem_append, h.services, hdata.services]
    exact hor (serviceOf alerts) s
  · intro s
    show s ∈ (row.sources ++ data.sources).dedup <-> _
    rw [List.mem_dedup, List.mem_append, h.sources, hdata.sources]
    exact hor (sourceOf alerts) s

/-- Linking makes the severity exact where it was, or where nothing was linked. -/
theorem Counted.add {alerts : LastAlerts} {db db' : Db} {id : Nat} {row : Incident}
    {fingerprints : List String} {excludeUnlinked : Bool} (h : Counted alerts db id row)
    (hseverity : row.severity = greatestSeverity alerts (db.active id) ∨ db.active id = [])
    (hadd : addAlertsToIncident alerts db id fingerprints excludeUnlinked = .ok db') :
    db' = db ∨ exists row', Exact alerts db' id row' := by
  rcases addAlertsToIncident_ok h.found hadd with hsame | ⟨new, data, _, hdata, heq⟩
  · exact Or.inl hsame
  · right
    subst heq
    refine ⟨_, h.linked hdata _, ?_⟩
    have hactive : (db.link id new).active id = db.active id ++ new := by
      rw [Db.active_link, if_pos rfl]
    show (if row.forcedSeverity then row.severity
      else if row.alertsCount ≠ 0 then max row.severity data.maxSeverity.order
      else data.maxSeverity.order) = greatestSeverity alerts ((db.link id new).active id)
    rw [hactive, greatestSeverity_append, ← hdata.severity, h.unforced, h.count]
    by_cases hempty : db.active id = []
    · have hlow : greatestSeverity alerts [] <= data.maxSeverity.order := by
        rw [hdata.severity]
        apply greatestSeverity_le.mpr
        have hnew := greatestSeverity_le.mp (Nat.le_refl (greatestSeverity alerts new))
        exact ⟨hnew.1, fun f order hf => by cases hf⟩
      simp [hempty, Nat.max_eq_right hlow]
    · rcases hseverity with hseverity | hnone
      · simp [hempty, hseverity]
      · exact absurd hnone hempty

/-- A successful remove makes every aggregate that of an incident without alerts. -/
theorem Counted.remove {alerts : LastAlerts} {db db' : Db} {now id : Nat} {row : Incident}
    {fingerprints : List String} {deleted : Option Nat} (h : Counted alerts db id row)
    (hremove : removeAlertsToIncidentByIncidentId alerts now db id fingerprints =
      .ok (db', deleted)) : exists row', Exact alerts db' id row' := by
  rcases removeAlerts_ok h.found hremove with ⟨hactive, data, hdata, heq⟩
  have hall : forall f, f ∈ db.active id -> f ∈ fingerprints := by
    intro f hf
    rw [Db.active_unlink] at hactive
    by_contra hnot
    have hkept := List.filter_eq_nil_iff.mp hactive f hf
    simp [hnot] at hkept
  have hactive' : db'.active id = [] := by
    rw [heq]
    exact hactive
  have hservices : (row.affectedServices.filter fun s => s ∉ data.services) = [] := by
    apply List.filter_eq_nil_iff.mpr
    intro s hs
    rcases (h.services s).mp hs with ⟨f, hf, hservice⟩
    have hremoved := (hdata.services s).mpr ⟨f, hall f hf, hservice⟩
    simpa using hremoved
  have hsources : (row.sources.filter fun s => s ∉ data.sources) = [] := by
    apply List.filter_eq_nil_iff.mpr
    intro s hs
    rcases (h.sources s).mp hs with ⟨f, hf, hsource⟩
    have hremoved := (hdata.sources s).mpr ⟨f, hall f hf, hsource⟩
    simpa using hremoved
  rw [hservices, hsources, h.unforced] at heq
  let emptied : Aggregates :=
    { alertsCount := 0
      affectedServices := []
      severity := IncidentSeverity.low.order
      sources := [] }
  have hfind : (db.unlink now id fingerprints).find id = some row := h.found
  refine ⟨row.setAggregates emptied, ⟨?_, h.unforced, ?_, ?_, ?_⟩, ?_⟩
  · rw [heq]
    exact Db.find_setAggregates hfind emptied
  · rw [hactive']
    rfl
  · rw [hactive']
    simp [Incident.setAggregates, emptied]
  · rw [hactive']
    simp [Incident.setAggregates, emptied]
  · rw [hactive']
    rfl

theorem Exact.step {alerts : LastAlerts} {id : Nat} {db db' : Db} {call : Call} {row : Incident}
    (h : Exact alerts db id row) (hstep : step alerts id db call = some db') :
    exists row', Exact alerts db' id row' := by
  cases call with
  | add fingerprints excludeUnlinked =>
      have hadd := toOption_eq_some.mp hstep
      rcases h.toCounted.add (Or.inl h.severity) hadd with hsame | hexact
      · rw [hsame]
        exact ⟨row, h⟩
      · exact hexact
  | remove now fingerprints =>
      rcases Option.map_eq_some_iff.mp hstep with ⟨⟨db'', deleted⟩, hremove, heq⟩
      rw [← heq]
      exact h.toCounted.remove (toOption_eq_some.mp hremove)

/-- The first call on a fresh incident leaves it alone or makes its aggregates exact. -/
theorem Fresh.step {alerts : LastAlerts} {id : Nat} {db db' : Db} {call : Call} {row : Incident}
    (h : Fresh db id row) (hstep : step alerts id db call = some db') :
    (db' = db ∧ call.isAdd = true) ∨ exists row', Exact alerts db' id row' := by
  cases call with
  | add fingerprints excludeUnlinked =>
      have hadd := toOption_eq_some.mp hstep
      rcases (h.counted alerts).add (Or.inr h.unlinked) hadd with hsame | hexact
      · exact Or.inl ⟨hsame, rfl⟩
      · exact Or.inr hexact
  | remove now fingerprints =>
      rcases Option.map_eq_some_iff.mp hstep with ⟨⟨db'', deleted⟩, hremove, heq⟩
      rw [← heq]
      exact Or.inr ((h.counted alerts).remove (toOption_eq_some.mp hremove))

/-!
## Runs of calls
-/

/-- Every call was an add that linked nothing. -/
def LinkedNothing (before after : Db) (calls : List Call) : Prop :=
  after = before ∧ forall call, call ∈ calls -> call.isAdd = true

theorem run_exact {alerts : LastAlerts} {id : Nat} {db db' : Db} {calls : List Call}
    {row : Incident} (h : Fresh db id row) (hrun : run (step alerts id) db calls = some db') :
    LinkedNothing db db' calls ∨ exists row', Exact alerts db' id row' := by
  induction calls with
  | nil =>
      cases hrun
      exact Or.inl ⟨rfl, fun call hmem => by cases hmem⟩
  | cons call rest ih =>
      rcases run_cons.mp hrun with ⟨db'', hstep, hrest⟩
      rcases h.step hstep with ⟨hsame, hadd⟩ | hexact
      · subst hsame
        rcases ih hrest with ⟨heq, hadds⟩ | hexact
        · refine Or.inl ⟨heq, ?_⟩
          intro other hmem
          rcases List.mem_cons.mp hmem with hother | hmem
          · rw [hother]
            exact hadd
          · exact hadds other hmem
        · exact Or.inr hexact
      · right
        refine run_invariant (p := fun db => exists row', Exact alerts db id row') ?_ hexact hrest
        rintro db c db' ⟨row', hrow'⟩ hc
        exact hrow'.step hc

/-- After any sequence of successful calls the count, the services and the sources are
exact, and so is the severity unless nothing was ever linked or removed. -/
theorem aggregates_exact (alerts : LastAlerts) (id : Nat) (db db' : Db) (calls : List Call)
    (row : Incident) (hfresh : Fresh db id row)
    (hrun : run (step alerts id) db calls = some db') :
    exists row', Counted alerts db' id row' ∧
      (row'.severity = greatestSeverity alerts (db'.active id) ∨ LinkedNothing db db' calls) := by
  rcases run_exact hfresh hrun with hnothing | ⟨row', hexact⟩
  · rw [hnothing.1]
    exact ⟨row, hfresh.counted alerts, Or.inr ⟨rfl, hnothing.2⟩⟩
  · exact ⟨row', hexact.toCounted, Or.inl hexact.severity⟩

def sampleAlerts : LastAlerts := fun fingerprint =>
  if fingerprint = "disk" then
    { service := some "db", providerType := "grafana", severity := some "warning" }
  else { service := some "api", providerType := "grafana", severity := some "high" }

/-- As `Incident(..)` makes it. -/
def newIncident : Incident where
  id := 1
  status := .firing
  mergedInto := none
  mergedBy := none
  severity := IncidentSeverity.critical.order
  forcedSeverity := false
  alertsCount := 0
  affectedServices := []
  sources := []

def newDb : Db where
  links := []
  incidents := [newIncident]
  primaryKey := by decide

theorem newIncident_fresh : Fresh newDb 1 newIncident :=
  ⟨rfl, rfl, rfl, rfl, rfl, rfl⟩

def sampleDb : Db where
  links := [
    { incident := 1, fingerprint := "cpu", deletedAt := some 7 },
    { incident := 1, fingerprint := "disk", deletedAt := some 7 },
    { incident := 1, fingerprint := "disk", deletedAt := none }]
  incidents := [
    { newIncident with
      severity := IncidentSeverity.warning.order
      alertsCount := 1
      affectedServices := ["db"]
      sources := ["grafana"] }]
  primaryKey := by decide

def sampleCalls : List Call :=
  [.add ["disk", "cpu", "disk"] false, .add ["cpu"] true, .remove 7 ["cpu", "disk", "net"],
    .add ["disk"] false]

theorem sampleDb_aggregates_exact :
    exists row', Counted sampleAlerts sampleDb 1 row' ∧
      (row'.severity = greatestSeverity sampleAlerts (sampleDb.active 1) ∨
        LinkedNothing newDb sampleDb sampleCalls) :=
  aggregates_exact sampleAlerts 1 newDb sampleDb sampleCalls newIncident newIncident_fresh rfl

/-- Adding no alert succeeds and leaves the severity the incident was created with. -/
theorem severity_not_exact :
    ¬ forall (alerts : LastAlerts) (id : Nat) (db db' : Db) (calls : List Call) (row : Incident),
      Fresh db id row -> calls ≠ [] -> run (step alerts id) db calls = some db' ->
        exists row', Exact alerts db' id row' := by
  intro h
  rcases h sampleAlerts 1 newDb newDb [.add [] false] newIncident newIncident_fresh (by simp) rfl
    with ⟨row', hexact⟩
  have hfound := hexact.found
  cases hfound
  have hseverity := hexact.severity
  cases hseverity

end Incidents
end KeepGateway
