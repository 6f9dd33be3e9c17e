import KeepGateway.Lib.FirstMatch
import KeepGateway.Lib.Trails
import KeepGateway.Reports.IncidentReports

/-!
# Recurring incidents

When the calculation of recurring incidents ends, and that it then groups the incidents under the
first ones of their chains.
-/

namespace KeepGateway
namespace Reports

open Trails

/-- The link of an incident of the set. -/
def IncidentsDict.earlier (incidents : IncidentsDict) (id : Nat) : Option Nat :=
  (incidents.get id).bind IncidentDto.sameIncidentInThePastId

/-- The chain of links of an incident ends at a place. -/
def EndsAt (incidents : IncidentsDict) (id root : Nat) : Prop :=
  exists ids, Trail incidents.earlier id ids root

/-- An incident without an earlier one at which the chain of another one ends. -/
def IsOrigin (incidents : IncidentsDict) (root : Nat) : Prop :=
  (exists incident, incidents.get root = some incident ∧
      incident.sameIncidentInThePastId = none) ∧
    exists other, other ∈ incidents.incidents ∧ other.id ≠ root ∧ EndsAt incidents other.id root

/-- An entry counts the incidents of the set whose chains end at its incident. -/
structure Counts (incidents : IncidentsDict) (root : Nat) (entry : ReoccuringIncidentReportDto) :
    Prop where
  incidentId : entry.incidentId = strId root
  incidentName : entry.incidentName = (incidents.get root).bind IncidentDto.name
  occurrenceCount : exists ids : List Nat, ids.Nodup ∧ entry.occurrenceCount = ids.length ∧
    forall id, id ∈ ids <-> (exists incident, incidents.get id = some incident) ∧
      EndsAt incidents id root

/-- One entry for each origin. -/
def GroupsRecurring (incidents : IncidentsDict) (report : List ReoccuringIncidentReportDto) :
    Prop :=
  exists roots : List Nat, roots.Nodup ∧ (forall root, root ∈ roots <-> IsOrigin incidents root) ∧
    List.Forall₂ (Counts incidents) roots report

/-- The calculation ends, and what it returns groups the incidents. -/
def ReportsRecurring (incidents : IncidentsDict) : Prop :=
  (exists fuel report, calculateRecurringIncidents fuel incidents = some report) ∧
    forall fuel report, calculateRecurringIncidents fuel incidents = some report ->
      GroupsRecurring incidents report

/-!
## One chain
-/

namespace IncidentsDict

variable {incidents : IncidentsDict}

theorem get_eq_some {id : Nat} {incident : IncidentDto} :
    incidents.get id = some incident <->
      incident ∈ incidents.incidents ∧ incident.id = id :=
  FirstMatch.find?_key incidents.distinct

theorem earlier_of_mem {incident : IncidentDto} (h : incident ∈ incidents.incidents) :
    incidents.earlier incident.id = incident.sameIncidentInThePastId := by
  unfold earlier
  rw [get_eq_some.mpr ⟨h, rfl⟩]
  rfl

/-- What the loop finds for an incident of the set. -/
def Finds (incidents : IncidentsDict) (incident : IncidentDto)
    (result : Option (Nat × List Nat)) : Prop :=
  exists ids root, Trail incidents.earlier incident.id ids root ∧
    result = if incident.id = root then none else (incidents.get root).map fun _ => (root, ids)

/-- The loop stops on a chain that ends. -/
theorem followLinks_ends {current root : Nat} {ids : List Nat}
    (h : Trail incidents.earlier current ids root) {fuel : Nat} (hfuel : ids.length ≤ fuel)
    (path : List Nat) : exists result, followLinks incidents fuel path (some current) = some result := by
  induction h generalizing fuel path with
  | @last current hnone =>
      cases fuel with
      | zero => cases hfuel
      | succ fuel =>
          unfold followLinks
          cases hget : incidents.get current with
          | none => exact ⟨_, rfl⟩
          | some incident =>
              rw [earlier, hget] at hnone
              have hlink : incident.sameIncidentInThePastId = none := hnone
              simp only [hlink]
              exact ⟨_, rfl⟩
  | @link current next root ids hsome _ ih =>
      cases fuel with
      | zero => cases hfuel
      | succ fuel =>
          rcases Option.bind_eq_some_iff.mp hsome with ⟨incident, hget, hlink⟩
          unfold followLinks
          rw [hget]
          simp only [hlink]
          exact ih (Nat.le_of_succ_le_succ hfuel) _

/-- Where the loop stops, the chain ends, and the path is returned with an end in the set. -/
theorem followLinks_eq_some {fuel : Nat} {path : List Nat} {current : Nat}
    {result : Option (Nat × List Nat)}
    (h : followLinks incidents fuel path (some current) = some result) :
    exists ids root, Trail incidents.earlier current ids root ∧
      result = (incidents.get root).map fun _ => (root, path ++ ids) := by
  induction fuel generalizing path current with
  | zero => cases h
  | succ fuel ih =>
      unfold followLinks at h
      cases hget : incidents.get current with
      | none =>
          rw [hget] at h
          cases h
          refine ⟨_, _, .last ?_, by rw [hget]; rfl⟩
          rw [earlier, hget]
          rfl
      | some incident =>
          have hearlier : incidents.earlier current = incident.sameIncidentInThePastId := by
            rw [earlier, hget]
            rfl
          rw [hget] at h
          cases hlink : incident.sameIncidentInThePastId with
          | none =>
              simp only [hlink] at h
              cases h
              exact ⟨_, _, .last (hearlier.trans hlink), by rw [hget]; rfl⟩
          | some next =>
              simp only [hlink] at h
              rcases ih h with ⟨ids, root, htrail, hresult⟩
              refine ⟨_, root, .link (hearlier.trans hlink) htrail, ?_⟩
              rw [hresult, List.append_assoc, List.singleton_append]

theorem finds_of_followLinks {incident : IncidentDto} (hmem : incident ∈ incidents.incidents)
    {fuel : Nat} {result : Option (Nat × List Nat)}
    (h : followLinks incidents fuel [incident.id] incident.sameIncidentInThePastId =
      some result) : incidents.Finds incident result := by
  have hearlier := earlier_of_mem hmem
  cases hlink : incident.sameIncidentInThePastId with
  | none =>
      rw [hlink] at h
      refine ⟨_, _, .last (hearlier.trans hlink), ?_⟩
      rw [if_pos rfl]
      cases fuel <;> exact (Option.some.inj h).symm
  | some past =>
      rw [hlink] at h hearlier
      rcases followLinks_eq_some h with ⟨ids, root, htrail, hresult⟩
      have hne : incident.id ≠ root := by
        intro heq
        rw [heq, htrail.next_last] at hearlier
        cases hearlier
      exact ⟨_, root, .link hearlier htrail, by rw [if_neg hne, hresult]; rfl⟩

/-!
## All chains
-/

/-- What the loop finds for an incident, where it stops. -/
def foundBy (incidents : IncidentsDict) (fuel : Nat) (incident : IncidentDto) :
    Option (Nat × List Nat) :=
  (followLinks incidents fuel [incident.id] incident.sameIncidentInThePastId).getD none

def Stops (incidents : IncidentsDict) (fuel : Nat) (incident : IncidentDto) : Prop :=
  exists found,
    followLinks incidents fuel [incident.id] incident.sameIncidentInThePastId = some found

theorem Stops.eq {fuel : Nat} {incident : IncidentDto} (h : incidents.Stops fuel incident) :
    followLinks incidents fuel [incident.id] incident.sameIncidentInThePastId =
      some (incidents.foundBy fuel incident) := by
  rcases h with ⟨found, hfound⟩
  rw [foundBy, hfound]
  rfl

theorem foldlM_addIncident {fuel : Nat} {l : List IncidentDto} {acc r : List (Nat × List Nat)} :
    l.foldlM (addIncident incidents fuel) acc = some r <->
      (forall incident, incident ∈ l -> incidents.Stops fuel incident) ∧
        r = (l.map (incidents.foundBy fuel)).foldl addPath acc := by
  induction l generalizing acc with
  | nil => simp [eq_comm]
  | cons incident rest ih =>
      rw [List.foldlM_cons]
      constructor
      · intro h
        rcases Option.bind_eq_some_iff.mp h with ⟨next, hnext, hrest⟩
        rcases Option.map_eq_some_iff.mp hnext with ⟨found, hfound, rfl⟩
        rcases ih.mp hrest with ⟨hstops, rfl⟩
        have hfirst : incidents.Stops fuel incident := ⟨found, hfound⟩
        rw [hfirst.eq] at hfound
        cases hfound
        exact ⟨List.forall_mem_cons.mpr ⟨hfirst, hstops⟩, rfl⟩
      · rintro ⟨hstops, rfl⟩
        rcases List.forall_mem_cons.mp hstops with ⟨hfirst, hstops⟩
        refine Option.bind_eq_some_iff.mpr ⟨_, ?_, ih.mpr ⟨hstops, rfl⟩⟩
        rw [addIncident, hfirst.eq]
        rfl

end IncidentsDict

/-- The sets of ids that were built from what was found so far. -/
structure Collects (founds : List (Option (Nat × List Nat))) (recurring : List (Nat × List Nat)) :
    Prop where
  distinct : Dict.Distinct recurring
  keys : forall root, root ∈ recurring.map Prod.fst <-> exists path, some (root, path) ∈ founds
  nodup : forall root ids, recurring.lookup root = some ids -> ids.Nodup
  members : forall root ids, recurring.lookup root = some ids ->
    forall id, id ∈ ids <-> exists path, some (root, path) ∈ founds ∧ id ∈ path

theorem mem_addId {ids : List Nat} {id other : Nat} :
    other ∈ addId ids id <-> other ∈ ids ∨ other = id := by
  unfold addId
  split
  · next hmem =>
      constructor
      · exact Or.inl
      · rintro (h | rfl)
        · exact h
        · exact hmem
  · rw [List.mem_append, List.mem_singleton]

theorem mem_foldl_addId {path ids : List Nat} {id : Nat} :
    id ∈ path.foldl addId ids <-> id ∈ ids ∨ id ∈ path := by
  induction path generalizing ids with
  | nil => simp
  | cons first rest ih => rw [List.foldl_cons, ih, mem_addId, List.mem_cons, or_assoc]

theorem nodup_foldl_addId {path ids : List Nat} (h : ids.Nodup) : (path.foldl addId ids).Nodup := by
  induction path generalizing ids with
  | nil => exact h
  | cons first rest ih =>
      refine ih ?_
      unfold addId
      split
      · exact h
      · next hnew => exact List.nodup_append'.mpr ⟨h, List.nodup_singleton _, by simpa using hnew⟩

/-- The set of a root so far. -/
theorem Collects.current {founds : List (Option (Nat × List Nat))}
    {recurring : List (Nat × List Nat)} (h : Collects founds recurring) (root : Nat) :
    ((recurring.lookup root).getD []).Nodup ∧
      forall id, id ∈ (recurring.lookup root).getD [] <->
        exists path, some (root, path) ∈ founds ∧ id ∈ path := by
  cases hlookup : recurring.lookup root with
  | none =>
      refine ⟨List.nodup_nil, ?_⟩
      intro id
      constructor
      · intro hid
        cases hid
      · rintro ⟨path, hpath, _⟩
        exact (Dict.lookup_eq_none.mp hlookup ((h.keys root).mpr ⟨path, hpath⟩)).elim
  | some ids => exact ⟨h.nodup root ids hlookup, h.members root ids hlookup⟩

theorem lookup_addPath (recurring : List (Nat × List Nat)) (root : Nat) (path : List Nat)
    (k : Nat) : (addPath recurring (some (root, path))).lookup k =
      if root = k then some (path.foldl addId ((recurring.lookup root).getD []))
      else recurring.lookup k := by
  unfold addPath
  dsimp only
  rw [Dict.lookup_set, Dict.lookup_setDefault root root, if_pos rfl, Option.getD_some]
  split
  · rfl
  · next hne => rw [Dict.lookup_setDefault_ne hne]

theorem Collects.add {founds : List (Option (Nat × List Nat))}
    {recurring : List (Nat × List Nat)} (h : Collects founds recurring)
    (found : Option (Nat × List Nat)) : Collects (founds ++ [found]) (addPath recurring found) := by
  cases found with
  | none =>
      have hmem : forall root path, some (root, path) ∈ founds ++ [none] <->
          some (root, path) ∈ founds := by simp
      refine ⟨h.distinct, ?_, h.nodup, ?_⟩
      · intro root
        rw [show addPath recurring none = recurring from rfl, h.keys root]
        simp only [hmem]
      · intro root ids hids id
        simpa only [hmem] using h.members root ids hids id
  | some pair =>
      rcases pair with ⟨root, path⟩
      have hmem : forall k other, some (k, other) ∈ founds ++ [some (root, path)] <->
          some (k, other) ∈ founds ∨ k = root ∧ other = path := by simp
      have hlookup := lookup_addPath recurring root path
      rcases h.current root with ⟨hnodup, hmembers⟩
      refine ⟨(h.distinct.setDefault root []).set root _, ?_, ?_, ?_⟩
      · intro k
        rw [← not_iff_not, ← Dict.lookup_eq_none, hlookup]
        rcases Classical.em (root = k) with heq | hne
        · rw [if_pos heq]
          simp [heq]
        · rw [if_neg hne, Dict.lookup_eq_none, h.keys]
          simp [Ne.symm hne]
      · intro k ids hids
        rw [hlookup] at hids
        split at hids
        · cases hids
          exact nodup_foldl_addId hnodup
        · exact h.nodup k ids hids
      · intro k ids hids id
        rw [hlookup] at hids
        split at hids
        · next heq =>
            cases hids
            rw [mem_foldl_addId, hmembers, ← heq]
            simp only [hmem, or_and_right, exists_or, true_and, exists_eq_left]
        · next hne =>
            rw [h.members k ids hids]
            simp only [hmem, Ne.symm hne, false_and, or_false]

theorem collects_foldl (founds : List (Option (Nat × List Nat))) :
    Collects founds (founds.foldl addPath []) := by
  induction founds using List.reverseRecOn with
  | nil =>
      refine ⟨Dict.distinct_nil, ?_, ?_, ?_⟩
      · simp
      · intro root ids h
        cases h
      · intro root ids h
        cases h
  | append_singleton founds found ih =>
      rw [List.foldl_append]
      exact ih.add found

/-!
## The report
-/

namespace IncidentsDict

variable {incidents : IncidentsDict}

theorem mem_of_earlier {id next : Nat} (h : incidents.earlier id = some next) :
    exists incident, incidents.get id = some incident := by
  rcases Option.bind_eq_some_iff.mp h with ⟨incident, hget, _⟩
  exact ⟨incident, hget⟩

/-- A path is found for every incident of the set whose chain ends at another one of the set. -/
theorem mem_founds {fuel : Nat}
    (h : forall incident, incident ∈ incidents.incidents -> incidents.Stops fuel incident)
    {root : Nat} {path : List Nat} :
    some (root, path) ∈ incidents.incidents.map (incidents.foundBy fuel) <->
      exists incident, incident ∈ incidents.incidents ∧ incident.id ≠ root ∧
        Trail incidents.earlier incident.id path root ∧
          exists last, incidents.get root = some last := by
  rw [List.mem_map]
  constructor
  · rintro ⟨incident, hmem, hfound⟩
    rcases finds_of_followLinks hmem (h incident hmem).eq with ⟨ids, z, htrail, hresult⟩
    rw [hfound] at hresult
    split at hresult
    · cases hresult
    · next hne =>
        rcases Option.map_eq_some_iff.mp hresult.symm with ⟨last, hlast, heq⟩
        cases heq
        exact ⟨incident, hmem, hne, htrail, last, hlast⟩
  · rintro ⟨incident, hmem, hne, htrail, last, hlast⟩
    refine ⟨incident, hmem, ?_⟩
    rcases finds_of_followLinks hmem (h incident hmem).eq with ⟨ids, z, htrail', hresult⟩
    rcases htrail.unique htrail' with ⟨rfl, rfl⟩
    rw [hresult, if_neg hne, hlast]
    rfl

theorem isOrigin_iff {root : Nat} :
    IsOrigin incidents root <->
      exists incident, incident ∈ incidents.incidents ∧ incident.id ≠ root ∧
        (exists path, Trail incidents.earlier incident.id path root) ∧
          exists last, incidents.get root = some last := by
  constructor
  · rintro ⟨⟨last, hlast, _⟩, other, hmem, hne, htrail⟩
    exact ⟨other, hmem, hne, htrail, last, hlast⟩
  · rintro ⟨other, hmem, hne, ⟨path, htrail⟩, last, hlast⟩
    refine ⟨⟨last, hlast, ?_⟩, other, hmem, hne, path, htrail⟩
    have hnone := htrail.next_last
    rw [earlier, hlast] at hnone
    exact hnone

/-- The set of a root holds the incidents of the set whose chains end there. -/
theorem mem_set_iff {fuel : Nat}
    (h : forall incident, incident ∈ incidents.incidents -> incidents.Stops fuel incident)
    {root : Nat} (hroot : IsOrigin incidents root) {id : Nat} :
    (exists path, some (root, path) ∈ incidents.incidents.map (incidents.foundBy fuel) ∧
        id ∈ path) <->
      (exists incident, incidents.get id = some incident) ∧ EndsAt incidents id root := by
  rcases isOrigin_iff.mp hroot with ⟨other, hother, hotherNe, ⟨otherPath, hotherTrail⟩, hlast⟩
  constructor
  · rintro ⟨path, hpath, hid⟩
    rcases (mem_founds h).mp hpath with ⟨incident, _, _, htrail, _⟩
    rcases htrail.of_mem hid with ⟨rest, hrest⟩
    refine ⟨?_, rest, hrest⟩
    rcases hrest.eq_or_linked with heq | ⟨next, _, hnext, _⟩
    · rw [heq]
      exact hlast
    · exact mem_of_earlier hnext
  · rintro ⟨⟨incident, hget⟩, path, htrail⟩
    rcases Classical.em (id = root) with heq | hne
    · rw [heq]
      exact ⟨otherPath, (mem_founds h).mpr ⟨other, hother, hotherNe, hotherTrail, hlast⟩,
        hotherTrail.last_mem⟩
    · rcases get_eq_some.mp hget with ⟨hmem, hid⟩
      rw [← hid] at htrail hne
      exact ⟨path, (mem_founds h).mpr ⟨incident, hmem, hne, htrail, hlast⟩,
        hid ▸ htrail.first_mem⟩

/-- What the calculation returns groups the incidents. -/
theorem groupsRecurring {fuel : Nat} {report : List ReoccuringIncidentReportDto}
    (h : calculateRecurringIncidents fuel incidents = some report) :
    GroupsRecurring incidents report := by
  rcases Option.map_eq_some_iff.mp h with ⟨recurring, hrecurring, rfl⟩
  rcases foldlM_addIncident.mp hrecurring with ⟨hstops, rfl⟩
  have hcollects := collects_foldl (incidents.incidents.map (incidents.foundBy fuel))
  have hroots : forall root, root ∈ (List.foldl addPath []
      (incidents.incidents.map (incidents.foundBy fuel))).map Prod.fst <->
        IsOrigin incidents root := by
    intro root
    rw [hcollects.keys, isOrigin_iff]
    constructor
    · rintro ⟨path, hpath⟩
      rcases (mem_founds hstops).mp hpath with ⟨incident, hmem, hne, htrail, hlast⟩
      exact ⟨incident, hmem, hne, ⟨path, htrail⟩, hlast⟩
    · rintro ⟨incident, hmem, hne, ⟨path, htrail⟩, hlast⟩
      exact ⟨path, (mem_founds hstops).mpr ⟨incident, hmem, hne, htrail, hlast⟩⟩
  refine ⟨_, hcollects.distinct, hroots, ?_⟩
  rw [List.forall₂_map_left_iff, List.forall₂_map_right_iff, List.forall₂_same]
  rintro ⟨root, ids⟩ hentry
  have hlookup := hcollects.distinct.lookup.mpr hentry
  refine ⟨rfl, rfl, ids, hcollects.nodup root ids hlookup, rfl, ?_⟩
  intro id
  rw [hcollects.members root ids hlookup,
    mem_set_iff hstops ((hroots root).mp (List.mem_map_of_mem hentry))]

theorem stops_of_trail {incident : IncidentDto} (hmem : incident ∈ incidents.incidents)
    {ids : List Nat} {root fuel : Nat} (h : Trail incidents.earlier incident.id ids root)
    (hfuel : ids.length ≤ fuel) : incidents.Stops fuel incident := by
  have hearlier := earlier_of_mem hmem
  unfold Stops
  cases hlink : incident.sameIncidentInThePastId with
  | none =>
      refine ⟨none, ?_⟩
      cases fuel <;> rfl
  | some past =>
      rw [hlink] at hearlier
      cases h with
      | last hnone => cases hnone.symm.trans hearlier
      | link hsome hrest =>
          cases hsome.symm.trans hearlier
          exact followLinks_ends hrest (Nat.le_of_succ_le hfuel) _

/-- One bound on the iterations serves for all chains. -/
theorem exists_fuel {l : List IncidentDto}
    (h : forall incident, incident ∈ l ->
      exists ids root, Trail incidents.earlier incident.id ids root) :
    exists fuel, forall incident, incident ∈ l ->
      exists ids root, Trail incidents.earlier incident.id ids root ∧ ids.length ≤ fuel := by
  induction l with
  | nil => exact ⟨0, fun _ hmem => absurd hmem List.not_mem_nil⟩
  | cons first rest ih =>
      rcases List.forall_mem_cons.mp h with ⟨⟨ids, root, htrail⟩, hrest⟩
      rcases ih hrest with ⟨fuel, hfuel⟩
      refine ⟨max ids.length fuel, List.forall_mem_cons.mpr ⟨?_, ?_⟩⟩
      · exact ⟨ids, root, htrail, Nat.le_max_left _ _⟩
      · intro incident hmem
        rcases hfuel incident hmem with ⟨ids', root', htrail', hle⟩
        exact ⟨ids', root', htrail', Nat.le_trans hle (Nat.le_max_right _ _)⟩

end IncidentsDict

/-- The calculation ends, with the grouped incidents, where no incident of the set leads back to
itself. -/
theorem reportsRecurring_iff (incidents : IncidentsDict) :
    ReportsRecurring incidents <-> Acyclic incidents.earlier := by
  constructor
  · rintro ⟨⟨fuel, report, h⟩, _⟩ id hcycle
    rcases Option.map_eq_some_iff.mp h with ⟨recurring, hrecurring, _⟩
    rcases IncidentsDict.foldlM_addIncident.mp hrecurring with ⟨hstops, _⟩
    rcases Relation.TransGen.head'_iff.mp hcycle with ⟨next, hnext, _⟩
    rcases IncidentsDict.mem_of_earlier hnext with ⟨incident, hget⟩
    rcases IncidentsDict.get_eq_some.mp hget with ⟨hmem, hid⟩
    rcases IncidentsDict.finds_of_followLinks hmem (hstops incident hmem).eq with
      ⟨ids, root, htrail, _⟩
    rw [hid] at htrail
    exact not_trail_of_cycle hcycle htrail
  · intro hacyclic
    refine ⟨?_, fun _ _ h => IncidentsDict.groupsRecurring h⟩
    have hlinked : forall id next, incidents.earlier id = some next ->
        id ∈ {id | id ∈ incidents.incidents.map IncidentDto.id} := by
      intro id next hnext
      rcases IncidentsDict.mem_of_earlier hnext with ⟨incident, hget⟩
      rcases IncidentsDict.get_eq_some.mp hget with ⟨hmem, hid⟩
      exact List.mem_map.mpr ⟨incident, hmem, hid⟩
    rcases IncidentsDict.exists_fuel (l := incidents.incidents) fun incident _ =>
        exists_trail (List.finite_toSet _) hlinked hacyclic incident.id with ⟨fuel, hfuel⟩
    have hstops : forall incident, incident ∈ incidents.incidents ->
        incidents.Stops fuel incident := by
      intro incident hmem
      rcases hfuel incident hmem with ⟨ids, root, htrail, hle⟩
      exact IncidentsDict.stops_of_trail hmem htrail hle
    exact ⟨fuel, _, Option.map_eq_some_iff.mpr
      ⟨_, IncidentsDict.foldlM_addIncident.mpr ⟨hstops, rfl⟩, rfl⟩⟩

/-- An incident that was given its own id as its earlier one. -/
def linkedToItself : IncidentsDict where
  incidents := [⟨1, none, none, none, none, none, some 1⟩]
  distinct := List.nodup_singleton _

/-- No number of iterations is enough. -/
theorem linkedToItself_not_reported : ¬ ReportsRecurring linkedToItself := by
  have hloop : forall fuel path, followLinks linkedToItself fuel path (some 1) = none := by
    intro fuel
    induction fuel with
    | zero =>
        intro path
        rfl
    | succ fuel ih =>
        intro path
        exact ih (path ++ [1])
  rintro ⟨⟨fuel, report, h⟩, -⟩
  have hnone : calculateRecurringIncidents fuel linkedToItself = none := by
    show ((addIncident linkedToItself fuel [] ⟨1, none, none, none, none, none, some 1⟩).bind
      pure).map _ = none
    rw [addIncident, hloop]
    rfl
  rw [hnone] at h
  cases h

end Reports
end KeepGateway
