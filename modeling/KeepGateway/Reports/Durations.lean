import KeepGateway.Lib.RunningExtreme
import KeepGateway.Reports.IncidentReports
import Mathlib.Algebra.Order.Ring.Int
import Mathlib.Order.OrderDual

/-!
# Reported durations

When the reported durations are the extremes.  A running duration of zero counts as one that was
not set yet, and incidents without a duration leave the text `None` as the id.
-/

namespace KeepGateway
namespace Reports

open RunningExtreme

/-- A reported duration is the least of the list, with the id of an incident that has it, or
there is none to report. -/
def Reported (incidents : List IncidentDto) (atMost : Int -> Int -> Prop) (seconds : Option Int)
    (id : Option String) : Prop :=
  (exists incident duration, incident ∈ incidents ∧ incident.duration = some duration ∧
      seconds = some duration ∧ id = some (strId incident.id) ∧
        forall other otherDuration, other ∈ incidents -> other.duration = some otherDuration ->
          atMost duration otherDuration) ∨
    (forall incident, incident ∈ incidents -> incident.duration = none) ∧ seconds = none ∧ id = none

def ReportsExtremes (incidents : List IncidentDto) (report : Option IncidentDurations) : Prop :=
  Reported incidents (· ≤ ·) (report.bind IncidentDurations.shortestDurationSeconds)
      (report.bind IncidentDurations.shortestDurationIncidentId) ∧
    Reported incidents (· ≥ ·) (report.bind IncidentDurations.longestDurationSeconds)
      (report.bind IncidentDurations.longestDurationIncidentId)

/-- Some incident has a duration, and a duration of zero is the last one or between others. -/
def KeepsExtremes (incidents : List IncidentDto) : Prop :=
  incidents = [] ∨
    let durations := incidents.filterMap IncidentDto.duration
    durations ≠ [] ∧
      (0 ∉ durations ∨ durations.getLast? = some 0 ∨
        (exists duration, duration ∈ durations ∧ duration < 0) ∧
          exists duration, duration ∈ durations ∧ 0 < duration)

/-!
## The loop as two running extremes
-/

/-- The durations with the ids of their incidents. -/
def timed (incidents : List IncidentDto) : List (Int × Nat) :=
  incidents.filterMap fun incident => incident.duration.map fun duration => (duration, incident.id)

/-- The key of the longest duration. -/
def longestKey : Int × Nat -> Intᵒᵈ := OrderDual.toDual ∘ Prod.fst

theorem addShortest_eq (running : Running) (item : Int × Nat) :
    addShortest running item.1 item.2 = step Prod.fst 0 running item := by
  cases running with
  | none => rfl
  | some best => simp only [addShortest, Running.add, step, decide_eq_true_eq]

theorem addLongest_eq (running : Running) (item : Int × Nat) :
    addLongest running item.1 item.2 = step longestKey (OrderDual.toDual 0) running item := by
  cases running with
  | none => rfl
  | some best =>
      simp only [addLongest, Running.add, step, gt_iff_lt, decide_eq_true_eq]
      rfl

theorem foldl_addDuration (incidents : List IncidentDto) (running : Running × Running) :
    incidents.foldl addDuration running =
      ((timed incidents).foldl (step Prod.fst 0) running.1,
        (timed incidents).foldl (step longestKey (OrderDual.toDual 0)) running.2) := by
  induction incidents generalizing running with
  | nil => rfl
  | cons incident rest ih =>
      have htimed : timed (incident :: rest) =
          (incident.duration.map fun duration => (duration, incident.id)).toList ++ timed rest := by
        unfold timed
        rw [List.filterMap_cons]
        cases incident.duration <;> rfl
      rw [List.foldl_cons, ih, htimed, addDuration]
      cases hduration : incident.duration with
      | none => rfl
      | some duration =>
          have hshortest := addShortest_eq running.1 (duration, incident.id)
          have hlongest := addLongest_eq running.2 (duration, incident.id)
          simp only [Option.map_some, Option.toList_some, List.singleton_append, List.foldl_cons]
          rw [← hshortest, ← hlongest]

theorem mem_timed {incidents : List IncidentDto} {item : Int × Nat} :
    item ∈ timed incidents <->
      exists incident, incident ∈ incidents ∧ incident.duration = some item.1 ∧
        incident.id = item.2 := by
  simp only [timed, List.mem_filterMap, Option.map_eq_some_iff]
  constructor
  · rintro ⟨incident, hmem, duration, hduration, rfl⟩
    exact ⟨incident, hmem, hduration, rfl⟩
  · rintro ⟨incident, hmem, hduration, hid⟩
    exact ⟨incident, hmem, item.1, hduration, by rw [hid]⟩

theorem map_timed (incidents : List IncidentDto) :
    (timed incidents).map Prod.fst = incidents.filterMap IncidentDto.duration := by
  rw [timed, List.map_filterMap]
  congr 1
  funext incident
  cases incident.duration <;> rfl

/-!
## What is reported
-/

section

variable {κ : Type} [LinearOrder κ] {key : Int × Nat -> κ} {unset : κ} {atMost : Int -> Int -> Prop}
  {incidents : List IncidentDto} {best : Int × Nat}

theorem reported_iff (hkey : forall p q, key p ≤ key q <-> atMost p.1 q.1)
    (h : least key unset (timed incidents) = some best) :
    Reported incidents atMost (some best.1) (some (strId best.2)) <->
      Least key (timed incidents) best := by
  constructor
  · rintro (⟨incident, duration, hmem, hduration, hseconds, -, hatMost⟩ | ⟨-, hseconds, -⟩)
    · refine ⟨least_mem h, ?_⟩
      intro other hother
      rcases mem_timed.mp hother with ⟨otherIncident, hotherMem, hotherDuration, -⟩
      rw [hkey, Option.some.inj hseconds]
      exact hatMost otherIncident other.1 hotherMem hotherDuration
    · cases hseconds
  · rintro ⟨hmem, hleast⟩
    rcases mem_timed.mp hmem with ⟨incident, hincident, hduration, hid⟩
    refine Or.inl ⟨incident, best.1, hincident, hduration, rfl, by rw [hid], ?_⟩
    intro other duration hother hotherDuration
    exact (hkey best (duration, other.id)).mp
      (hleast _ (mem_timed.mpr ⟨other, hother, hotherDuration, rfl⟩))

/-- An extreme of the pairs, said of the durations. -/
theorem least_timed_iff {p : Int -> κ} (hp : Function.Injective p)
    (h : least (p ∘ Prod.fst) (p 0) (timed incidents) = some best) :
    Least (p ∘ Prod.fst) (timed incidents) best <->
      (exists duration, duration ∈ incidents.filterMap IncidentDto.duration ∧
          p duration < p 0) ∨
        0 ∉ incidents.filterMap IncidentDto.duration ∨
        (incidents.filterMap IncidentDto.duration).getLast? = some 0 := by
  rw [least_iff h, ← map_timed, List.getLast?_map]
  refine or_congr ?_ (or_congr ?_ ?_)
  · simp only [List.mem_map, exists_exists_and_eq_and, Function.comp_apply]
  · constructor
    · intro hset hzero
      rcases List.mem_map.mp hzero with ⟨item, hitem, heq⟩
      exact hset item hitem (congrArg p heq)
    · intro hzero item hitem heq
      exact hzero (List.mem_map.mpr ⟨item, hitem, hp heq⟩)
  · simp only [Option.map_eq_some_iff, Function.comp_apply, hp.eq_iff]

end

theorem reported_none_iff {incidents : List IncidentDto} {atMost : Int -> Int -> Prop}
    {text : String} : ¬ Reported incidents atMost none (some text) := by
  rintro (⟨_, _, _, _, hseconds, _⟩ | ⟨_, _, hid⟩)
  · cases hseconds
  · cases hid

/-- The shortest and the longest duration are reported unless a zero is forgotten. -/
theorem reportsExtremes_iff (incidents : List IncidentDto) :
    ReportsExtremes incidents (calculateDurations incidents) <-> KeepsExtremes incidents := by
  unfold ReportsExtremes KeepsExtremes calculateDurations
  rcases Classical.em (incidents = []) with hnil | hne
  · subst hnil
    simp [Reported]
  · rw [if_neg hne, foldl_addDuration]
    show Reported incidents _ ((least Prod.fst 0 (timed incidents)).map Prod.fst)
        (some (strOptional ((least Prod.fst 0 (timed incidents)).map Prod.snd))) ∧
      Reported incidents _ ((least longestKey _ (timed incidents)).map Prod.fst)
        (some (strOptional ((least longestKey _ (timed incidents)).map Prod.snd))) <-> _
    rcases Classical.em (timed incidents = []) with htimed | htimed
    · have hdurations : incidents.filterMap IncidentDto.duration = [] := by
        rw [← map_timed, htimed]
        rfl
      rw [htimed, hdurations]
      constructor
      · rintro ⟨h, _⟩
        exact (reported_none_iff h).elim
      · rintro (h | ⟨h, _⟩)
        · exact (hne h).elim
        · exact (h rfl).elim
    · have hdurations : incidents.filterMap IncidentDto.duration ≠ [] := by
        rw [← map_timed]
        exact mt List.map_eq_nil_iff.mp htimed
      rcases exists_least Prod.fst (0 : Int) htimed with ⟨shortest, hshortest⟩
      rcases exists_least longestKey (OrderDual.toDual 0) htimed with
        ⟨longest, hlongest⟩
      rw [hshortest, hlongest]
      have hleast : Reported incidents (· ≤ ·) (some shortest.1) (some (strId shortest.2)) <-> _ :=
        (reported_iff (fun _ _ => Iff.rfl) hshortest).trans
          (least_timed_iff Function.injective_id hshortest)
      have hgreatest : Reported incidents (· ≥ ·) (some longest.1) (some (strId longest.2)) <-> _ :=
        (reported_iff (κ := Intᵒᵈ) (fun _ _ => Iff.rfl) hlongest).trans
          (least_timed_iff (κ := Intᵒᵈ) OrderDual.toDual.injective hlongest)
      constructor
      · rintro ⟨hshort, hlong⟩
        refine Or.inr ⟨hdurations, ?_⟩
        rcases hleast.mp hshort with hbelow | hkept
        · rcases hgreatest.mp hlong with habove | hkept
          · exact Or.inr (Or.inr ⟨hbelow, habove⟩)
          · exact hkept.imp_right Or.inl
        · exact hkept.imp_right Or.inl
      · rintro (h | ⟨-, hset | hlast | ⟨hbelow, habove⟩⟩)
        · exact (hne h).elim
        · exact ⟨hleast.mpr (Or.inr (Or.inl hset)), hgreatest.mpr (Or.inr (Or.inl hset))⟩
        · exact ⟨hleast.mpr (Or.inr (Or.inr hlast)), hgreatest.mpr (Or.inr (Or.inr hlast))⟩
        · exact ⟨hleast.mpr (Or.inl hbelow), hgreatest.mpr (Or.inl habove)⟩

/-- An incident that lasted from `start` to `finish`. -/
def lasting (id : Nat) (start finish : Int) : IncidentDto :=
  ⟨id, none, none, some start, some start, some finish, none⟩

/-- An incident that took no time, and one of five seconds. -/
def instantFirst : List IncidentDto := [lasting 1 100 100, lasting 2 100 105]

/-- The shortest duration is reported as five seconds. -/
theorem instantFirst_not_reported :
    ¬ ReportsExtremes instantFirst (calculateDurations instantFirst) := by
  have hreport : (calculateDurations instantFirst).bind IncidentDurations.shortestDurationSeconds =
      some 5 := rfl
  rintro ⟨hshortest, -⟩
  rw [hreport] at hshortest
  rcases hshortest with ⟨_, duration, -, -, hseconds, -, hatMost⟩ | ⟨-, hseconds, -⟩
  · rw [← Option.some.inj hseconds] at hatMost
    exact absurd (hatMost (lasting 1 100 100) 0 List.mem_cons_self rfl) (by decide)
  · cases hseconds

end Reports
end KeepGateway
