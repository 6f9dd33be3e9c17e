import KeepGateway.Incidents.Merge

/-!
# Which merges lose no alert

What one source does to the links and to the statuses, what the loop does, and
from both the failures under which a merge loses nothing.
-/

namespace KeepGateway
namespace Incidents

/-!
## Statuses under the operations
-/

theorem Db.status_update (db : Db) (id other : Nat) (f : Incident -> Incident)
    (hf : forall row, (f row).id = row.id) :
    (db.update id f hf).status other =
      if id = other then (db.find other).map fun row => (f row).status else db.status other := by
  have hcomp : ((fun row : Incident => row.id == other) ∘
      fun row => if row.id = id then f row else row) = fun row : Incident => row.id == other := by
    funext row
    by_cases hrow : row.id = id <;> simp [hrow, hf]
  unfold Db.status Db.find Db.update
  rw [List.find?_map, hcomp]
  cases hfind : db.incidents.find? fun row => row.id == other with
  | none => simp
  | some row =>
      have hrow : row.id = other := by simpa using List.find?_some hfind
      by_cases hid : id = other
      · simp [hid, hrow]
      · simp [hid, hrow, Ne.symm hid]

theorem Db.status_setAggregates (db : Db) (id other : Nat) (a : Aggregates) :
    (db.setAggregates id a).status other = db.status other := by
  unfold Db.setAggregates
  rw [Db.status_update]
  split
  · rfl
  · rfl

theorem updateAfterAdd_frame {alerts : LastAlerts} {db db' : Db} {id : Nat} {new : List String}
    (h : updateAfterAdd alerts db id new = .ok db') :
    db'.active = db.active ∧ db'.status = db.status := by
  rcases updateAfterAdd_writes h with heq | ⟨aggregates, heq⟩
  · rw [heq]
    exact ⟨rfl, rfl⟩
  · rw [heq]
    exact ⟨rfl, funext fun other => Db.status_setAggregates db id other _⟩

theorem updateAfterRemoval_frame {alerts : LastAlerts} {db db' : Db} {id : Nat}
    {fingerprints : List String} {row : Incident}
    (h : updateAfterRemoval alerts db id fingerprints row = .ok db') :
    db'.active = db.active ∧ db'.status = db.status := by
  rcases updateAfterRemoval_writes h with ⟨aggregates, heq⟩
  rw [heq]
  exact ⟨rfl, funext fun other => Db.status_setAggregates db id other _⟩

namespace Merge

variable {m : Merge}

theorem active_flush (m : Merge) (pending : List Nat) (db : Db) :
    (m.flush pending db).active = db.active := by
  unfold flush
  induction pending generalizing db with
  | nil => rfl
  | cons id rest ih => exact ih _

theorem status_flush (m : Merge) (pending : List Nat) (db : Db) (id : Nat) :
    (m.flush pending db).status id =
      if id ∈ pending then (db.status id).map fun _ => .merged else db.status id := by
  unfold flush
  induction pending generalizing db with
  | nil => simp
  | cons first rest ih =>
      rw [List.foldl_cons, ih, Db.status_update]
      by_cases hfirst : first = id
      · subst hfirst
        have hmerged : (db.find first).map (fun row =>
            (Incident.merge m.destination m.mergedBy row).status) =
              (db.status first).map fun _ => .merged := by
          unfold Db.status
          rw [Option.map_map]
          rfl
        rw [if_pos rfl, hmerged, Option.map_map]
        simp [Function.comp_def]
      · simp [hfirst, Ne.symm hfirst]

/-!
## One source
-/

theorem removeStep_ok {db db' : Db} {source : Nat} {fingerprints : List String}
    (hsource : (db.status source).isSome = true)
    (h : m.removeStep db source fingerprints = .ok db') :
    db'.status = db.status ∧ forall id f, f ∈ db'.active id <->
      f ∈ db.active id ∧ ¬ (source = id ∧ m.unlinks source = true ∧ f ∈ fingerprints) := by
  have hunlink : forall id f, f ∈ (db.unlink m.now source fingerprints).active id <->
      f ∈ db.active id ∧ ¬ (source = id ∧ f ∈ fingerprints) := by
    intro id f
    rw [Db.active_unlink, List.mem_filter, decide_eq_true_iff]
  unfold removeStep at h
  unfold unlinks
  cases hremove : (m.outcomes source).remove with
  | raisesBeforeCommit =>
      rw [hremove] at h
      cases h
      exact ⟨rfl, fun id f => by simp⟩
  | raisesAfterCommit =>
      rw [hremove] at h
      cases h
      exact ⟨rfl, fun id f => by simp [hunlink]⟩
  | completes =>
      rw [hremove] at h
      rcases map_eq_ok.mp h with ⟨⟨db'', deleted⟩, hresult, heq⟩
      subst heq
      rcases Option.isSome_iff_exists.mp hsource with ⟨status, hstatus⟩
      rcases Option.map_eq_some_iff.mp hstatus with ⟨row, hrow, _⟩
      unfold removeAlertsToIncidentByIncidentId at hresult
      rw [hrow] at hresult
      rcases bind_eq_ok.mp hresult with ⟨result, hupdate, hresult⟩
      cases hresult
      rcases updateAfterRemoval_frame hupdate with ⟨hactive, hstatus'⟩
      refine ⟨hstatus', ?_⟩
      intro id f
      rw [hactive, hunlink]
      simp

/-- The links that an add step has to make. -/
def news (m : Merge) (db : Db) (fingerprints : List String) : Bool :=
  fingerprints.any fun f => f ∉ db.active m.destination

theorem newFingerprints_eq_nil {db : Db} {id : Nat} {fingerprints : List String} :
    db.newFingerprints id fingerprints false = [] <->
      forall f, f ∈ fingerprints -> f ∈ db.active id := by
  unfold Db.newFingerprints
  simp [List.filter_eq_nil_iff]

theorem mem_link_new (db : Db) (id other : Nat) (fingerprints : List String) (f : String) :
    f ∈ (db.link id (db.newFingerprints id fingerprints false)).active other <->
      f ∈ db.active other ∨ id = other ∧ f ∈ fingerprints := by
  rw [Db.active_link]
  by_cases h : id = other
  · subst h
    rw [if_pos rfl, List.mem_append]
    constructor
    · rintro (hold | hnew)
      · exact Or.inl hold
      · exact Or.inr ⟨rfl, (Db.mem_newFingerprints hnew).1⟩
    · rintro (hold | ⟨_, hf⟩)
      · exact Or.inl hold
      · by_cases hold : f ∈ db.active id
        · exact Or.inl hold
        · right
          simp [Db.newFingerprints, hf, hold]
  · simp [h]

/-- The statuses that are still pending when the add step of a source can commit them. -/
def kept (m : Merge) (s : Session) (source : Nat) : List Nat :=
  if (m.outcomes source).add.rolledBack then [] else s.pending

/-- What an add step leaves: the links it stores, and the statuses that were pending when
it committed them. -/
structure AddStep (m : Merge) (s : Session) (source : Nat) (fingerprints : List String)
    (s' : Session) : Prop where
  active : forall id f, f ∈ s'.db.active id <->
    f ∈ s.db.active id ∨ m.destination = id ∧ m.stores source = true ∧ f ∈ fingerprints
  committed : (m.stores source && m.news s.db fingerprints) = true ->
    s'.pending = [] ∧ forall id, s'.db.status id =
      if id ∈ m.kept s source then (s.db.status id).map fun _ => .merged else s.db.status id
  waiting : (m.stores source && m.news s.db fingerprints) = false ->
    s'.pending = m.kept s source ∧ s'.db.status = s.db.status

/-- The links are made and the pending statuses committed. -/
theorem addStep_linked (s : Session) {source : Nat} {fingerprints : List String}
    (hstores : m.stores source = true) (hnews : m.news s.db fingerprints = true) {db : Db}
    (hactive : db.active =
      (s.db.link m.destination (s.db.newFingerprints m.destination fingerprints false)).active)
    (hstatus : db.status = (m.flush (m.kept s source) s.db).status) :
    AddStep m s source fingerprints { db := db, pending := [] } where
  active := by
    intro id f
    rw [hactive, mem_link_new, hstores]
    simp
  committed := by
    intro _
    refine ⟨rfl, ?_⟩
    intro id
    rw [hstatus, status_flush]
  waiting := by
    intro hwaiting
    rw [hstores, hnews] at hwaiting
    cases hwaiting

theorem addStep_unlinked (s : Session) {source : Nat} {fingerprints : List String}
    (hnone : (m.stores source && m.news s.db fingerprints) = false) :
    AddStep m s source fingerprints { db := s.db, pending := m.kept s source } where
  active := by
    intro id f
    constructor
    · exact Or.inl
    · rintro (hold | ⟨hid, hstores, hf⟩)
      · exact hold
      · by_contra hnot
        rw [← hid] at hnot
        have hnews : m.news s.db fingerprints = true :=
          List.any_eq_true.mpr ⟨f, hf, by simpa using hnot⟩
        rw [hstores, hnews] at hnone
        cases hnone
  committed := by
    intro hcommitted
    rw [hnone] at hcommitted
    cases hcommitted
  waiting := fun _ => ⟨rfl, rfl⟩

theorem addStep_ok {s s' : Session} {source : Nat} {fingerprints : List String} {merged : Bool}
    (h : m.addStep s source fingerprints = .ok (s', merged)) :
    AddStep m s source fingerprints s' ∧ merged = !(m.outcomes source).add.raises := by
  have hsession : (if (m.outcomes source).add.rolledBack then { s with pending := [] } else s) =
      ({ db := s.db, pending := m.kept s source } : Session) := by
    unfold kept
    split <;> rfl
  have hlinked : forall new, (m.flush (m.kept s source) (s.db.link m.destination new)).status =
      (m.flush (m.kept s source) s.db).status := by
    intro new
    funext id
    rw [status_flush, status_flush]
    rfl
  simp only [addStep, hsession] at h
  split at h
  · rename_i hnil
    cases h
    refine ⟨addStep_unlinked s ?_, rfl⟩
    have hnews : m.news s.db fingerprints = false := by
      simpa [news] using newFingerprints_eq_nil.mp hnil
    rw [hnews, Bool.and_false]
  · rename_i hnew
    have hnews : m.news s.db fingerprints = true := by
      by_contra hnone
      apply hnew
      apply newFingerprints_eq_nil.mpr
      simpa [news] using hnone
    split at h
    · rename_i hstored
      cases h
      refine ⟨addStep_linked s ?_ hnews ?_ (hlinked _), rfl⟩
      · simp [stores, hstored]
      · exact active_flush m _ _
    · rename_i hstored
      split at h
      · rename_i hraises
        cases h
        refine ⟨addStep_unlinked s ?_, by simp [hraises]⟩
        simp [stores, hstored, hraises]
      · rename_i hraises
        rcases bind_eq_ok.mp h with ⟨db, hupdate, h⟩
        cases h
        rcases updateAfterAdd_frame hupdate with ⟨hactive, hstatus⟩
        refine ⟨addStep_linked s ?_ hnews ?_ ?_, by simp [hraises]⟩
        · simp [stores, hraises]
        · rw [hactive]
          exact active_flush m _ _
        · rw [hstatus]
          exact hlinked _

/-- The statuses that are pending when a source can commit them, its own included. -/
def keptWith (m : Merge) (s : Session) (source : Nat) : List Nat :=
  if (m.outcomes source).add.rolledBack then [] else s.pending ++ [source]

/-- What the body of the loop does, where `linked` are the links of the destination. -/
structure SourceStep (m : Merge) (fingerprints : Nat -> List String) (linked : List String)
    (s : Session) (source : Nat) (s' : Session) : Prop where
  active : forall id f, f ∈ s'.db.active id <->
    (f ∈ s.db.active id ∧
        ¬ (source = id ∧ m.unlinks source = true ∧ f ∈ fingerprints source)) ∨
      m.destination = id ∧ m.stores source = true ∧ f ∈ fingerprints source
  after : forall f, f ∈ m.linkedAfter fingerprints linked source <->
    f ∈ s'.db.active m.destination
  committed : m.commits fingerprints linked source = true ->
    s'.pending = [] ∧ forall id, s'.db.status id =
      if id ∈ m.keptWith s source then (s.db.status id).map fun _ => .merged
      else s.db.status id
  waiting : m.commits fingerprints linked source = false ->
    s'.pending = m.keptWith s source ∧ s'.db.status = s.db.status

theorem mergeSource_ok {fingerprints : Nat -> List String} {linked : List String}
    {s s' : Session} {source : Nat} {merged : Bool}
    (hsource : (s.db.status source).isSome = true)
    (hlinked : forall f, f ∈ linked <-> f ∈ s.db.active m.destination)
    (h : m.mergeSource s source (fingerprints source) = .ok (s', merged)) :
    SourceStep m fingerprints linked s source s' ∧
      merged = !(m.outcomes source).add.raises := by
  rcases bind_eq_ok.mp h with ⟨db, hremove, hadd⟩
  rcases removeStep_ok hsource hremove with ⟨hstatus, hactive⟩
  rcases addStep_ok hadd with ⟨hstep, hmerged⟩
  have hbefore : forall f, f ∈ m.linkedBefore fingerprints linked source <->
      f ∈ db.active m.destination := by
    intro f
    rw [hactive, ← hlinked]
    unfold linkedBefore
    by_cases hguard : source = m.destination ∧ m.unlinks source = true
    · have hunlinks := hguard.2
      rw [if_pos hguard, List.mem_filter]
      simp [hguard.1, hguard.1 ▸ hunlinks]
    · rw [if_neg hguard]
      constructor
      · intro hf
        exact ⟨hf, fun hunlinked => hguard ⟨hunlinked.1, hunlinked.2.1⟩⟩
      · exact fun hf => hf.1
  have hcommits : m.commits fingerprints linked source =
      (m.stores source && m.news db (fingerprints source)) := by
    unfold commits news
    simp only [hbefore]
  refine ⟨⟨?_, ?_, ?_, ?_⟩, hmerged⟩
  · intro id f
    rw [hstep.active, hactive]
  · intro f
    rw [hstep.active, linkedAfter, List.mem_append, hbefore]
    cases m.stores source <;> simp
  · intro hcommitted
    rw [hcommits] at hcommitted
    rcases hstep.committed hcommitted with ⟨hpending, hstatus'⟩
    refine ⟨hpending, ?_⟩
    intro id
    rw [hstatus']
    show (if id ∈ m.keptWith s source then _ else db.status id) = _
    rw [hstatus]
  · intro hwaiting
    rw [hcommits] at hwaiting
    rcases hstep.waiting hwaiting with ⟨hpending, hstatus'⟩
    exact ⟨hpending, hstatus'.trans hstatus⟩

section SourceStep

variable {fingerprints : Nat -> List String} {linked : List String} {s s' : Session}
  {source : Nat}

theorem SourceStep.exists_status (h : SourceStep m fingerprints linked s source s') (id : Nat) :
    (s'.db.status id).isSome = (s.db.status id).isSome := by
  cases hcommits : m.commits fingerprints linked source with
  | false => rw [(h.waiting hcommits).2]
  | true =>
      rw [(h.committed hcommits).2]
      split
      · exact Option.isSome_map
      · rfl

theorem SourceStep.status_other (h : SourceStep m fingerprints linked s source s') {id : Nat}
    (hid : id ∉ m.keptWith s source) : id ∉ s'.pending ∧ s'.db.status id = s.db.status id := by
  cases hcommits : m.commits fingerprints linked source with
  | false =>
      rcases h.waiting hcommits with ⟨hpending, hstatus⟩
      rw [hpending, hstatus]
      exact ⟨hid, rfl⟩
  | true =>
      rcases h.committed hcommits with ⟨hpending, hstatus⟩
      rw [hpending, hstatus, if_neg hid]
      exact ⟨List.not_mem_nil, rfl⟩

theorem not_mem_keptWith {id : Nat} (hpending : id ∉ s.pending) (hsource : id ≠ source) :
    id ∉ m.keptWith s source := by
  unfold keptWith
  split
  · exact List.not_mem_nil
  · simp [hpending, hsource]

end SourceStep

/-!
## The loop
-/

section Loop

variable {fingerprints : Nat -> List String} {s s' : Session} {source : Nat}
  {sources merged failed : List Nat}

theorem mergeSources_cons
    (h : m.mergeSources fingerprints s (source :: sources) = .ok (s', merged, failed)) :
    exists t counted mergedRest failedRest,
      m.mergeSource s source (fingerprints source) = .ok (t, counted) ∧
        m.mergeSources fingerprints t sources = .ok (s', mergedRest, failedRest) ∧
        merged = (if counted then source :: mergedRest else mergedRest) ∧
        failed = if counted then failedRest else source :: failedRest := by
  rcases bind_eq_ok.mp h with ⟨⟨t, counted⟩, hfirst, h⟩
  rcases bind_eq_ok.mp h with ⟨⟨t', mergedRest, failedRest⟩, hrest, h⟩
  cases h
  exact ⟨t, counted, mergedRest, failedRest, hfirst, hrest, rfl, rfl⟩

/-- A source counts as merged or failed as its add step ends. -/
theorem mem_merged_failed (h : m.mergeSources fingerprints s sources = .ok (s', merged, failed))
    (hcounted : forall t t' source counted,
      m.mergeSource t source (fingerprints source) = .ok (t', counted) ->
        counted = !(m.outcomes source).add.raises) (id : Nat) :
    (id ∈ merged <-> id ∈ sources ∧ (m.outcomes id).add.raises = false) ∧
      (id ∈ failed <-> id ∈ sources ∧ (m.outcomes id).add.raises = true) := by
  induction sources generalizing s merged failed with
  | nil =>
      cases h
      simp
  | cons source sources ih =>
      rcases mergeSources_cons h with ⟨t, counted, mergedRest, failedRest, hfirst, hrest, hm, hf⟩
      rcases ih hrest with ⟨hmerged, hfailed⟩
      have heq := hcounted _ _ _ _ hfirst
      rw [hm, hf, heq]
      by_cases hid : id = source
      · subst hid
        cases hraises : (m.outcomes id).add.raises with
        | false => simp [hfailed, hraises]
        | true => simp [hmerged, hraises]
      · cases hraises : (m.outcomes source).add.raises with
        | false => simp [hmerged, hfailed, hid]
        | true => simp [hmerged, hfailed, hid]

/-- One step and the rest of the loop, for the inductions below. -/
theorem loop_cons {linked : List String}
    (hexists : forall id, id ∈ source :: sources -> (s.db.status id).isSome = true)
    (hlinked : forall f, f ∈ linked <-> f ∈ s.db.active m.destination)
    (h : m.mergeSources fingerprints s (source :: sources) = .ok (s', merged, failed)) :
    exists t mergedRest failedRest, SourceStep m fingerprints linked s source t ∧
      m.mergeSources fingerprints t sources = .ok (s', mergedRest, failedRest) ∧
      (forall id, id ∈ sources -> (t.db.status id).isSome = true) ∧
      forall f, f ∈ m.linkedAfter fingerprints linked source <->
        f ∈ t.db.active m.destination := by
  rcases mergeSources_cons h with ⟨t, counted, mergedRest, failedRest, hfirst, hrest, _, _⟩
  have hstep := (mergeSource_ok (hexists source List.mem_cons_self) hlinked hfirst).1
  refine ⟨t, mergedRest, failedRest, hstep, hrest, ?_, hstep.after⟩
  intro id hid
  rw [hstep.exists_status]
  exact hexists id (List.mem_cons_of_mem _ hid)

/-- A source that is not the destination keeps its links unless it was unlinked. -/
theorem active_other (hexists : forall id, id ∈ sources -> (s.db.status id).isSome = true)
    (h : m.mergeSources fingerprints s sources = .ok (s', merged, failed)) {id : Nat}
    (hid : id ≠ m.destination) (f : String) :
    f ∈ s'.db.active id <->
      f ∈ s.db.active id ∧
        ¬ (id ∈ sources ∧ m.unlinks id = true ∧ f ∈ fingerprints id) := by
  induction sources generalizing s merged failed with
  | nil =>
      cases h
      simp
  | cons source sources ih =>
      rcases loop_cons hexists (fun _ => Iff.rfl) h with ⟨t, _, _, hstep, hrest, hexists', _⟩
      rw [ih hexists' hrest, hstep.active]
      by_cases heq : id = source
      · subst heq
        simp [Ne.symm hid]
        tauto
      · simp [Ne.symm hid, heq, Ne.symm heq]

/-- A destination that is not a source gains what is stored. -/
theorem active_destination (hexists : forall id, id ∈ sources -> (s.db.status id).isSome = true)
    (h : m.mergeSources fingerprints s sources = .ok (s', merged, failed))
    (hdestination : m.destination ∉ sources) (f : String) :
    f ∈ s'.db.active m.destination <->
      f ∈ s.db.active m.destination ∨
        exists x, x ∈ sources ∧ m.stores x = true ∧ f ∈ fingerprints x := by
  induction sources generalizing s merged failed with
  | nil =>
      cases h
      simp
  | cons source sources ih =>
      rcases loop_cons hexists (fun _ => Iff.rfl) h with ⟨t, _, _, hstep, hrest, hexists', _⟩
      rw [List.mem_cons, not_or] at hdestination
      rw [ih hexists' hrest hdestination.2, hstep.active]
      simp only [Ne.symm hdestination.1, false_and, not_false_eq_true, and_true, true_and,
        List.exists_mem_cons_iff]
      exact or_assoc

/-- A destination among the sources keeps what it had until its own turn, when it may lose
it, and gains what is stored. -/
theorem active_destination_source
    (hexists : forall id, id ∈ sources -> (s.db.status id).isSome = true)
    (h : m.mergeSources fingerprints s sources = .ok (s', merged, failed))
    (hnodup : sources.Nodup) (hdestination : m.destination ∈ sources) (f : String) :
    f ∈ s'.db.active m.destination <->
      (exists x, x ∈ sources.dropWhile (fun x => x != m.destination) ∧ m.stores x = true ∧
          f ∈ fingerprints x) ∨
        ¬ (m.unlinks m.destination = true ∧ f ∈ fingerprints m.destination) ∧
          (f ∈ s.db.active m.destination ∨
            exists x, x ∈ sources ∧ m.stores x = true ∧ f ∈ fingerprints x) := by
  induction sources generalizing s merged failed with
  | nil => cases hdestination
  | cons source sources ih =>
      rcases loop_cons hexists (fun _ => Iff.rfl) h with ⟨t, _, _, hstep, hrest, hexists', _⟩
      rcases List.nodup_cons.mp hnodup with ⟨hsource, hnodup'⟩
      by_cases heq : source = m.destination
      · subst heq
        rw [active_destination hexists' hrest hsource, hstep.active]
        have hdrop : (m.destination :: sources).dropWhile (fun x => x != m.destination) =
            m.destination :: sources := by simp
        rw [hdrop]
        simp only [true_and, List.exists_mem_cons_iff]
        constructor
        · rintro ((⟨hold, hkept⟩ | hown) | hlater)
          · exact Or.inr ⟨hkept, Or.inl hold⟩
          · exact Or.inl (Or.inl hown)
          · exact Or.inl (Or.inr hlater)
        · rintro ((hown | hlater) | ⟨hkept, hold | hown | hlater⟩)
          · exact Or.inl (Or.inr hown)
          · exact Or.inr hlater
          · exact Or.inl (Or.inl ⟨hold, hkept⟩)
          · exact Or.inl (Or.inr hown)
          · exact Or.inr hlater
      · have hdestination' : m.destination ∈ sources := by
          rcases List.mem_cons.mp hdestination with hhead | hmem
          · exact absurd hhead.symm heq
          · exact hmem
        rw [ih hexists' hrest hnodup' hdestination', hstep.active]
        have hdrop : (source :: sources).dropWhile (fun x => x != m.destination) =
            sources.dropWhile fun x => x != m.destination := by simp [heq]
        rw [hdrop]
        simp only [heq, false_and, not_false_eq_true, and_true, true_and,
          List.exists_mem_cons_iff, or_assoc]

/-- The status that the end of the merge commits. -/
def settled (m : Merge) (s : Session) (id : Nat) : Option Status :=
  (m.commit s).db.status id

theorem settled_eq (m : Merge) (s : Session) (id : Nat) :
    m.settled s id =
      if id ∈ s.pending then (s.db.status id).map fun _ => .merged else s.db.status id :=
  status_flush m s.pending s.db id

/-- What is neither pending nor a source keeps its status. -/
theorem settled_other (hexists : forall id, id ∈ sources -> (s.db.status id).isSome = true)
    (h : m.mergeSources fingerprints s sources = .ok (s', merged, failed)) {id : Nat}
    (hpending : id ∉ s.pending) (hsources : id ∉ sources) :
    m.settled s' id = s.db.status id := by
  induction sources generalizing s merged failed with
  | nil =>
      cases h
      rw [settled_eq, if_neg hpending]
  | cons source sources ih =>
      rcases loop_cons hexists (fun _ => Iff.rfl) h with ⟨t, _, _, hstep, hrest, hexists', _⟩
      rw [List.mem_cons, not_or] at hsources
      rcases hstep.status_other (not_mem_keptWith hpending hsources.1) with ⟨hpending', hstatus⟩
      rw [ih hexists' hrest hpending' hsources.2, hstatus]

/-- From a status that is pending or set by the next source on. -/
theorem settled_kept {linked : List String} {t : Session}
    (hstep : SourceStep m fingerprints linked s source t)
    (hexists : forall id, id ∈ sources -> (t.db.status id).isSome = true)
    (hrest : m.mergeSources fingerprints t sources = .ok (s', merged, failed)) {id : Nat}
    (hid : id ∈ s.pending ++ [source]) (hsources : id ∉ sources)
    (hpending : id ∈ t.pending -> m.settled s' id =
      if m.rolledBackFirst fingerprints (m.linkedAfter fingerprints linked source) sources then
        t.db.status id
      else (t.db.status id).map fun _ => .merged) :
    m.settled s' id =
      if m.rolledBackFirst fingerprints linked (source :: sources) then s.db.status id
      else (s.db.status id).map fun _ => .merged := by
  unfold rolledBackFirst
  cases hrolled : (m.outcomes source).add.rolledBack with
  | true =>
      have hkept : id ∉ m.keptWith s source := by simp [keptWith, hrolled]
      rcases hstep.status_other hkept with ⟨hdropped, hstatus⟩
      rw [settled_other hexists hrest hdropped hsources, hstatus]
      simp
  | false =>
      have hkept : id ∈ m.keptWith s source := by
        unfold keptWith
        rw [hrolled]
        exact hid
      cases hcommits : m.commits fingerprints linked source with
      | true =>
          rcases hstep.committed hcommits with ⟨hempty, hstatus⟩
          rw [settled_other hexists hrest (by simp [hempty]) hsources, hstatus, if_pos hkept]
          simp
      | false =>
          rcases hstep.waiting hcommits with ⟨hpending', hstatus⟩
          rw [hpending (by rw [hpending']; exact hkept), hstatus]
          simp

/-- A pending status is committed unless the session is rolled back first. -/
theorem settled_pending {linked : List String}
    (hexists : forall id, id ∈ sources -> (s.db.status id).isSome = true)
    (hlinked : forall f, f ∈ linked <-> f ∈ s.db.active m.destination)
    (h : m.mergeSources fingerprints s sources = .ok (s', merged, failed)) {id : Nat}
    (hpending : id ∈ s.pending) (hsources : id ∉ sources) :
    m.settled s' id =
      if m.rolledBackFirst fingerprints linked sources then s.db.status id
      else (s.db.status id).map fun _ => .merged := by
  induction sources generalizing s merged failed linked with
  | nil =>
      cases h
      rw [settled_eq, if_pos hpending]
      rfl
  | cons source sources ih =>
      rcases loop_cons hexists hlinked h with ⟨t, _, _, hstep, hrest, hexists', hlinked'⟩
      rw [List.mem_cons, not_or] at hsources
      apply settled_kept hstep hexists' hrest (List.mem_append_left _ hpending) hsources.2
      intro hpending'
      exact ih hexists' hlinked' hrest hpending' hsources.2

/-- A source is marked as merged unless its status is dropped. -/
theorem settled_source {linked : List String}
    (hexists : forall id, id ∈ sources -> (s.db.status id).isSome = true)
    (hlinked : forall f, f ∈ linked <-> f ∈ s.db.active m.destination)
    (h : m.mergeSources fingerprints s sources = .ok (s', merged, failed))
    (hnodup : sources.Nodup) {id : Nat} (hpending : id ∉ s.pending) (hsources : id ∈ sources) :
    m.settled s' id =
      if m.statusDropped fingerprints id linked sources then s.db.status id
      else (s.db.status id).map fun _ => .merged := by
  induction sources generalizing s merged failed linked with
  | nil => cases hsources
  | cons source sources ih =>
      rcases loop_cons hexists hlinked h with ⟨t, _, _, hstep, hrest, hexists', hlinked'⟩
      rcases List.nodup_cons.mp hnodup with ⟨hsource, hnodup'⟩
      unfold statusDropped
      by_cases heq : source = id
      · subst heq
        rw [if_pos rfl]
        apply settled_kept hstep hexists' hrest (by simp) hsource
        intro hpending'
        exact settled_pending hexists' hlinked' hrest hpending' hsource
      · rw [if_neg heq]
        have hmem : id ∈ sources := by
          rcases List.mem_cons.mp hsources with hhead | hmem
          · exact absurd hhead.symm heq
          · exact hmem
        rcases hstep.status_other (not_mem_keptWith hpending (Ne.symm heq)) with
          ⟨hpending', hstatus⟩
        rw [ih hexists' hlinked' hrest hnodup' hpending' hmem, hstatus]

end Loop

end Merge

/-!
## The failures a merge survives
-/

theorem mem_sources {db : Db} {sourceIds : List Nat} {id : Nat} (h : id ∈ db.sources sourceIds) :
    (db.status id).isSome = true := by
  rcases List.mem_map.mp (List.mem_of_mem_filter h) with ⟨row, hrow, hid⟩
  unfold Db.status Db.find
  rw [Option.isSome_map, List.find?_isSome]
  exact ⟨row, hrow, by simpa using hid⟩

/-- What a merge that returns does, source by source. -/
structure Merged (m : Merge) (db after : Db) (sources merged failed : List Nat) : Prop where
  merged : forall id, id ∈ merged <-> id ∈ sources ∧ (m.outcomes id).add.raises = false
  failed : forall id, id ∈ failed <-> id ∈ sources ∧ (m.outcomes id).add.raises = true
  other : forall id, id ≠ m.destination -> forall f, f ∈ after.active id <->
    f ∈ db.active id ∧ ¬ (id ∈ sources ∧ m.unlinks id = true ∧ f ∈ db.active id)
  destination : m.destination ∉ sources -> forall f, f ∈ after.active m.destination <->
    f ∈ db.active m.destination ∨
      exists s, s ∈ sources ∧ m.stores s = true ∧ f ∈ db.active s
  destinationSource : m.destination ∈ sources -> forall f, f ∈ after.active m.destination <->
    (exists s, s ∈ sources.dropWhile (fun s => s != m.destination) ∧ m.stores s = true ∧
        f ∈ db.active s) ∨
      ¬ (m.unlinks m.destination = true ∧ f ∈ db.active m.destination) ∧
        (f ∈ db.active m.destination ∨
          exists s, s ∈ sources ∧ m.stores s = true ∧ f ∈ db.active s)
  unmarked : forall id, id ∉ sources -> after.status id = db.status id
  marked : forall id, id ∈ sources -> after.status id =
    if m.statusDropped db.active id (db.active m.destination) sources then db.status id
    else (db.status id).map fun _ => .merged

theorem mergeIncidentsToId_ok {m : Merge} {db after : Db} {sourceIds merged failed : List Nat}
    (h : mergeIncidentsToId m db sourceIds = .ok (after, merged, failed)) :
    Merged m db after (db.sources sourceIds) merged failed := by
  unfold mergeIncidentsToId at h
  cases hfind : db.find m.destination with
  | none =>
      rw [hfind] at h
      cases h
  | some row =>
      rw [hfind] at h
      rcases bind_eq_ok.mp h with ⟨⟨s, mergedIds, failedIds⟩, hloop, h⟩
      cases h
      have hexists : forall id, id ∈ db.sources sourceIds -> (db.status id).isSome = true :=
        fun id hid => mem_sources hid
      have hnodup : (db.sources sourceIds).Nodup := db.primaryKey.filter _
      have hcounted := fun id => Merge.mem_merged_failed hloop
        (fun t t' source counted hsource => by
          rcases bind_eq_ok.mp hsource with ⟨db', _, hadd⟩
          exact (Merge.addStep_ok hadd).2) id
      have hactive : (m.commit s).db.active = s.db.active := Merge.active_flush m _ _
      refine ⟨fun id => (hcounted id).1, fun id => (hcounted id).2, ?_, ?_, ?_, ?_, ?_⟩
      · intro id hid f
        rw [hactive]
        exact Merge.active_other hexists hloop hid f
      · intro hdestination f
        rw [hactive]
        exact Merge.active_destination hexists hloop hdestination f
      · intro hdestination f
        rw [hactive]
        exact Merge.active_destination_source hexists hloop hnodup hdestination f
      · intro id hid
        exact Merge.settled_other hexists hloop List.not_mem_nil hid
      · intro id hid
        exact Merge.settled_source hexists (fun _ => Iff.rfl) hloop hnodup List.not_mem_nil hid

theorem Merged.linked {m : Merge} {db after : Db} {sources merged failed : List Nat}
    (h : Merged m db after sources merged failed) (hsafe : Harmless m db sources) {f : String}
    (hf : f ∈ db.active m.destination) : f ∈ after.active m.destination := by
  by_cases hdestination : m.destination ∈ sources
  · rw [h.destinationSource hdestination]
    cases hunlinks : m.unlinks m.destination with
    | true => exact Or.inl (hsafe.relinked hdestination hunlinks f hf)
    | false => exact Or.inr ⟨fun hlost => Bool.false_ne_true hlost.1, Or.inl hf⟩
  · rw [h.destination hdestination]
    exact Or.inl hf

/-- A merge that returns loses no alert if and only if its failures are harmless. -/
theorem merge_losesNoAlert_iff (m : Merge) (db after : Db) (sourceIds merged failed : List Nat)
    (h : mergeIncidentsToId m db sourceIds = .ok (after, merged, failed)) :
    LosesNoAlert m.destination db after merged failed <->
      Harmless m db (db.sources sourceIds) := by
  have hok := mergeIncidentsToId_ok h
  have hstatus : forall id, id ∈ db.sources sourceIds ->
      (after.status id = some .merged -> db.status id = some .merged) ->
        db.status id = some .merged ∨
          m.statusDropped db.active id (db.active m.destination) (db.sources sourceIds) = true := by
    intro id hid hkept
    cases hdropped : m.statusDropped db.active id (db.active m.destination)
        (db.sources sourceIds) with
    | true => exact Or.inr rfl
    | false =>
        left
        apply hkept
        rcases Option.isSome_iff_exists.mp (mem_sources hid) with ⟨status, heq⟩
        rw [hok.marked id hid, hdropped, heq]
        rfl
  constructor
  · intro hloses
    refine ⟨?_, ?_, ?_⟩
    · intro s hs hne hraises hunlinks
      apply List.eq_nil_iff_forall_not_mem.mpr
      intro f hf
      have hkept := hloses.failedLinks s ((hok.failed s).mpr ⟨hs, hraises⟩) f hf
      exact ((hok.other s hne f).mp hkept).2 ⟨hs, hunlinks, hf⟩
    · rintro s hs (hraises | hdestination)
      · apply hstatus s hs
        rw [hloses.failedStatus s ((hok.failed s).mpr ⟨hs, hraises⟩)]
        exact id
      · apply hstatus s hs
        rw [hdestination]
        exact hloses.destinationStatus
    · intro hdestination hunlinks f hf
      have hlinked := hloses.linked f (Or.inl hf)
      rcases (hok.destinationSource hdestination f).mp hlinked with hlater | ⟨hnot, _⟩
      · exact hlater
      · exact absurd ⟨hunlinks, hf⟩ hnot
  · intro hsafe
    refine ⟨?_, ?_, ?_, ?_⟩
    · rintro f (hf | ⟨s, hs, hf⟩)
      · exact hok.linked hsafe hf
      · rcases (hok.merged s).mp hs with ⟨hsource, hcompletes⟩
        have hstores : m.stores s = true := by simp [Merge.stores, hcompletes]
        by_cases hold : f ∈ db.active m.destination
        · exact hok.linked hsafe hold
        · by_cases hdestination : m.destination ∈ db.sources sourceIds
          · rw [hok.destinationSource hdestination]
            exact Or.inr ⟨fun hlost => hold hlost.2, Or.inr ⟨s, hsource, hstores, hf⟩⟩
          · rw [hok.destination hdestination]
            exact Or.inr ⟨s, hsource, hstores, hf⟩
    · intro s hs f hf
      rcases (hok.failed s).mp hs with ⟨hsource, hraises⟩
      by_cases hdestination : s = m.destination
      · rw [hdestination] at hf ⊢
        exact hok.linked hsafe hf
      · rw [hok.other s hdestination]
        refine ⟨hf, ?_⟩
        rintro ⟨_, hunlinks, _⟩
        rw [hsafe.failedLinks s hsource hdestination hraises hunlinks] at hf
        cases hf
    · intro s hs
      rcases (hok.failed s).mp hs with ⟨hsource, hraises⟩
      rw [hok.marked s hsource]
      rcases hsafe.status s hsource (Or.inl hraises) with hmerged | hdropped
      · rw [hmerged]
        split <;> rfl
      · rw [if_pos hdropped]
    · intro hmerged
      by_cases hdestination : m.destination ∈ db.sources sourceIds
      · rcases hsafe.status _ hdestination (Or.inr rfl) with hstatus | hdropped
        · exact hstatus
        · rw [hok.marked _ hdestination, if_pos hdropped] at hmerged
          exact hmerged
      · rw [hok.unmarked _ hdestination] at hmerged
        exact hmerged

def incidentRow (id : Nat) (status : Status) : Incident where
  id := id
  status := status
  mergedInto := none
  mergedBy := none
  severity := IncidentSeverity.high.order
  forcedSeverity := false
  alertsCount := 1
  affectedServices := ["api"]
  sources := ["grafana"]

def twoIncidents : Db where
  links := [
    { incident := 1, fingerprint := "disk", deletedAt := none },
    { incident := 2, fingerprint := "cpu", deletedAt := none }]
  incidents := [incidentRow 1 .firing, incidentRow 2 .firing]
  primaryKey := by decide

/-- Incident 2 into incident 1, where the add step fails in every try. -/
def failedAdd (remove : RemoveOutcome) (rolledBack : Bool) : Merge where
  alerts := fun _ =>
    { service := some "api", providerType := "grafana", severity := some "high" }
  now := 7
  destination := 1
  mergedBy := some "ops"
  outcomes := fun _ =>
    { remove := remove, add := { raises := true, stored := false, rolledBack := rolledBack } }

theorem failedAdd_losesNoAlert_iff :
    LosesNoAlert 1 twoIncidents twoIncidents [] [2] <->
      Harmless (failedAdd .raisesBeforeCommit true) twoIncidents (twoIncidents.sources [2]) :=
  merge_losesNoAlert_iff (failedAdd .raisesBeforeCommit true) twoIncidents twoIncidents [2] [] [2]
    rfl

/-- The remove step has unlinked the alert that the add step then fails to link. -/
def alertLost : Db where
  links := [
    { incident := 1, fingerprint := "disk", deletedAt := none },
    { incident := 2, fingerprint := "cpu", deletedAt := some 7 }]
  incidents := [
    incidentRow 1 .firing,
    { incidentRow 2 .merged with
      mergedInto := some 1
      mergedBy := some "ops"
      severity := IncidentSeverity.low.order
      alertsCount := 0
      affectedServices := []
      sources := [] }]
  primaryKey := by decide

theorem merge_losesAlert :
    ¬ forall (m : Merge) (db after : Db) (sourceIds merged failed : List Nat),
      mergeIncidentsToId m db sourceIds = .ok (after, merged, failed) ->
        LosesNoAlert m.destination db after merged failed := by
  intro h
  have hloses := h (failedAdd .completes false) twoIncidents alertLost [2] [] [2] rfl
  have hlinked := hloses.failedLinks 2 (by simp) "cpu" (by decide)
  exact absurd hlinked (by decide)

end Incidents
end KeepGateway
