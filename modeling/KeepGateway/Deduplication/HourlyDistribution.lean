import KeepGateway.Deduplication.Statistics
import KeepGateway.Lib.Interleaved

/-!
# The hourly distribution of deduplication events

When the buckets of a rule account for its events of the last 24 hours.
-/

namespace KeepGateway
namespace Deduplication

open Hours Rows

/-!
## Accounts
-/

/-- The event is in the current hour or one of the 23 before it. -/
def AlertDeduplicationEvent.inLastDay (currentHour : Int) (event : AlertDeduplicationEvent) :
    Bool :=
  decide (currentHour - 24 * hour < event.dateHour ∧ event.dateHour ≤ currentHour)

/-- The events of a rule in the last 24 hours whose hour has the label. -/
def eventsLabelled (events : List AlertDeduplicationEvent) (currentHour : Int) (rule : String)
    (label : Nat) : Nat :=
  events.countP fun event => event.deduplicationRuleId == rule && event.inLastDay currentHour &&
    ofDay event.dateHour == label

/-- The events of a rule in the last 24 hours. -/
def eventsLastDay (events : List AlertDeduplicationEvent) (currentHour : Int) (rule : String) :
    Nat :=
  events.countP fun event => event.deduplicationRuleId == rule && event.inLastDay currentHour

/-- The events of a rule some hours ago. -/
def eventsAgo (events : List AlertDeduplicationEvent) (currentHour : Int) (rule : String)
    (ago : Nat) : Nat :=
  events.countP fun event => event.deduplicationRuleId == rule &&
    event.dateHour == currentHour - ago * hour

/-- The statistics list each rule with events, with a bucket for every hour of the day that has
the number of its events. -/
structure AccountsForEvents {events : List AlertDeduplicationEvent} {clock : Clock}
    (results : Results events clock) (rule : String) : Prop where
  listed : (exists event, event ∈ events ∧ event.deduplicationRuleId = rule) ->
    exists stats, (getAllDeduplicationStats results).lookup rule = some stats
  labelled : forall stats, (getAllDeduplicationStats results).lookup rule = some stats ->
    forall label, label < 24 -> exists bucket, bucket ∈ stats.alertsLast24Hours ∧
      bucket.hour = label
  hourly : forall stats, (getAllDeduplicationStats results).lookup rule = some stats ->
    forall bucket, bucket ∈ stats.alertsLast24Hours ->
      bucket.number = eventsLabelled events clock.currentHour rule bucket.hour
  total : forall stats, (getAllDeduplicationStats results).lookup rule = some stats ->
    (stats.alertsLast24Hours.map HourNumber.number).sum =
      eventsLastDay events clock.currentHour rule

/-- In the last 24 hours, the events of a rule in one hour are of one provider, and there are as
many of them some hours ago as so many hours after the first one. -/
structure Mirrored (events : List AlertDeduplicationEvent) (currentHour : Int) (rule : String) :
    Prop where
  oneProvider : forall a b, a ∈ events -> b ∈ events -> a.deduplicationRuleId = rule ->
    b.deduplicationRuleId = rule -> a.inLastDay currentHour = true -> a.dateHour = b.dateHour ->
      a.providerId = b.providerId ∧ a.providerType = b.providerType
  mirrored : forall ago, ago < 24 ->
    eventsAgo events currentHour rule ago = eventsAgo events currentHour rule (23 - ago)

/-!
## The first loop
-/

theorem DeduplicationStats.add_alertsLast24Hours (deduplicationType : String) (count : Nat)
    (stats : DeduplicationStats) :
    (stats.add deduplicationType count).alertsLast24Hours = stats.alertsLast24Hours := by
  unfold add
  split
  · rfl
  · split
    · rfl
    · split
      · rfl
      · rfl

/-- The first loop leaves all buckets empty. -/
theorem addAllTime_foldl_empty {currentHour : Int} {rule : String} (rows : List (AllTimeKey × Nat))
    {stats : AllStats}
    (h : forall entry, stats.lookup rule = some entry ->
      entry.alertsLast24Hours = noAlerts currentHour) :
    forall entry, (rows.foldl (addAllTime currentHour) stats).lookup rule = some entry ->
      entry.alertsLast24Hours = noAlerts currentHour := by
  induction rows generalizing stats with
  | nil => exact h
  | cons row rows ih =>
      apply ih
      intro entry hentry
      unfold addAllTime at hentry
      rcases Classical.em (row.1.deduplicationRuleId = rule) with hrule | hrule
      · rw [hrule, Dict.lookup_set_self] at hentry
        rw [← Option.some.inj hentry, DeduplicationStats.add_alertsLast24Hours]
        cases hold : stats.lookup rule with
        | none => rfl
        | some old => exact h old hold
      · rw [Dict.lookup_set_ne hrule] at hentry
        exact h entry hentry

/-- The first loop lists the rules of its rows. -/
theorem addAllTime_foldl_listed (currentHour : Int) {rule : String}
    (rows : List (AllTimeKey × Nat)) {stats : AllStats}
    (h : (exists entry, stats.lookup rule = some entry) ∨
      exists row, row ∈ rows ∧ row.1.deduplicationRuleId = rule) :
    exists entry, (rows.foldl (addAllTime currentHour) stats).lookup rule = some entry := by
  induction rows generalizing stats with
  | nil =>
      rcases h with hlisted | ⟨row, hrow, _⟩
      · exact hlisted
      · exact absurd hrow List.not_mem_nil
  | cons row rows ih =>
      apply ih
      unfold addAllTime
      rcases Classical.em (row.1.deduplicationRuleId = rule) with hrule | hrule
      · left
        rw [hrule]
        exact ⟨_, Dict.lookup_set_self _ _ _⟩
      · rcases h with ⟨entry, hentry⟩ | ⟨other, hother, hsame⟩
        · left
          refine ⟨entry, ?_⟩
          rw [Dict.lookup_set_ne hrule]
          exact hentry
        · rcases List.mem_cons.mp hother with heq | hmem
          · rw [heq] at hsame
            exact absurd hsame hrule
          · exact Or.inr ⟨other, hmem, hsame⟩

/-!
## The second loop
-/

/-- What a row of the second query does to the buckets of a rule. -/
def fillOf (currentHour : Int) (rule : String) (buckets : List HourNumber)
    (row : HourlyKey × Nat) : List HourNumber :=
  if row.1.deduplicationRuleId = rule then fill currentHour buckets row else buckets

/-- The row is meant for the bucket of a rule that is for some hours ago. -/
def HourlyKey.isAgo (currentHour : Int) (rule : String) (ago : Nat) (key : HourlyKey) : Bool :=
  key.deduplicationRuleId == rule && hoursAgo currentHour key.dateHour == ago

/-- The buckets with numbers. -/
def bucketsOf (currentHour : Int) (number : Nat -> Nat) : List HourNumber :=
  buckets (fun i => ofDay (currentHour - i * hour)) number

theorem addLast24Hours_of_none {currentHour : Int} {stats : AllStats} {row : HourlyKey × Nat}
    (h : stats.lookup row.1.deduplicationRuleId = none) :
    addLast24Hours currentHour stats row = stats := by
  simp only [addLast24Hours, h]

theorem addLast24Hours_of_some {currentHour : Int} {stats : AllStats} {row : HourlyKey × Nat}
    {entry : DeduplicationStats} (h : stats.lookup row.1.deduplicationRuleId = some entry) :
    addLast24Hours currentHour stats row =
      Dict.set row.1.deduplicationRuleId { entry with
        alertsLast24Hours := fill currentHour entry.alertsLast24Hours row } stats := by
  simp only [addLast24Hours, h]

theorem addLast24Hours_foldl {currentHour : Int} {rule : String}
    (rows : List (HourlyKey × Nat)) (stats : AllStats) :
    (rows.foldl (addLast24Hours currentHour) stats).lookup rule =
      (stats.lookup rule).map fun entry => { entry with
        alertsLast24Hours := rows.foldl (fillOf currentHour rule) entry.alertsLast24Hours } := by
  induction rows generalizing stats with
  | nil =>
      cases hentry : stats.lookup rule with
      | none => exact hentry
      | some entry => exact hentry
  | cons row rows ih =>
      have hstep : (addLast24Hours currentHour stats row).lookup rule =
          (stats.lookup rule).map fun entry => { entry with
            alertsLast24Hours := fillOf currentHour rule entry.alertsLast24Hours row } := by
        rcases Classical.em (row.1.deduplicationRuleId = rule) with hrule | hrule
        · cases hentry : stats.lookup rule with
          | none => rw [addLast24Hours_of_none (by rw [hrule]; exact hentry), hentry]; rfl
          | some entry =>
              rw [addLast24Hours_of_some (by rw [hrule]; exact hentry), hrule,
                Dict.lookup_set_self, Option.map_some, fillOf, if_pos hrule]
        · have hkeeps : (addLast24Hours currentHour stats row).lookup rule =
              stats.lookup rule := by
            cases hother : stats.lookup row.1.deduplicationRuleId with
            | none => rw [addLast24Hours_of_none hother]
            | some other => rw [addLast24Hours_of_some hother, Dict.lookup_set_ne hrule]
          rw [hkeeps]
          cases stats.lookup rule with
          | none => rfl
          | some entry => rw [Option.map_some, fillOf, if_neg hrule]
      rw [List.foldl_cons, ih, hstep, Option.map_map]
      rfl

/-- A row is written into the bucket whose index is as far from the other end. -/
theorem fillOf_bucketsOf (currentHour : Int) (rule : String) (number : Nat -> Nat)
    (row : HourlyKey × Nat) :
    fillOf currentHour rule (bucketsOf currentHour number) row =
      bucketsOf currentHour fun i =>
        if row.1.isAgo currentHour rule (23 - i) then row.2 else number i := by
  unfold fillOf HourlyKey.isAgo
  rcases Classical.em (row.1.deduplicationRuleId = rule) with hrule | hrule
  · rw [if_pos hrule, hrule, beq_self_eq_true]
    show (if 0 ≤ hoursAgo currentHour row.1.dateHour ∧ hoursAgo currentHour row.1.dateHour < 24 then
      (bucketsOf currentHour number).modify (23 - hoursAgo currentHour row.1.dateHour).toNat
        (fun bucket => { bucket with number := row.2 })
      else bucketsOf currentHour number) = _
    rw [bucketsOf, modify_buckets _ number fun _ => row.2]
    generalize hoursAgo currentHour row.1.dateHour = ago
    have hmeant : forall i : Nat, i < 24 ->
        ((true && ago == ((23 - i : Nat) : Int)) = true <-> ago = 23 - (i : Int)) := by
      intro i hi
      rw [Bool.true_and, beq_iff_eq, Int.ofNat_sub (Nat.le_of_lt_succ hi)]
      rfl
    split
    case isTrue hin =>
      apply buckets_congr
      intro i hi
      have hindex : (23 - ago).toNat = i <-> ago = 23 - (i : Int) := by omega
      simp only [hindex, hmeant i hi]
    case isFalse hout =>
      apply buckets_congr
      intro i hi
      rw [if_neg]
      intro heq
      have hago := (hmeant i hi).mp heq
      omega
  · rw [if_neg hrule, beq_eq_false_iff_ne.mpr hrule]
    rfl

/-- After the second loop, a bucket has the number of the last row that was meant for it. -/
theorem fillOf_foldl (currentHour : Int) (rule : String) (rows : List (HourlyKey × Nat))
    (number : Nat -> Nat) :
    rows.foldl (fillOf currentHour rule) (bucketsOf currentHour number) =
      bucketsOf currentHour fun i =>
        lastCount (HourlyKey.isAgo currentHour rule (23 - i)) rows (number i) := by
  induction rows generalizing number with
  | nil => rfl
  | cons row rows ih =>
      rw [List.foldl_cons, fillOf_bucketsOf, ih]
      rfl

/-!
## Hours
-/

section

variable {events : List AlertDeduplicationEvent} {clock : Clock}

/-- Between times on the hour there are whole hours. -/
theorem hoursAgo_eq_iff (event : AlertDeduplicationEvent) (ago : Nat) :
    hoursAgo clock.currentHour event.dateHour = ago <->
      event.dateHour = clock.currentHour - ago * hour := by
  rcases exists_of_emod_eq_zero event.onHour with ⟨number, hnumber⟩
  have hpos := hour_pos
  unfold hoursAgo Clock.currentHour truncate
  rw [hnumber, ← Int.sub_mul, ← Int.sub_mul, Int.mul_tdiv_cancel _ hour_ne_zero,
    Int.mul_eq_mul_right_iff hour_ne_zero]
  omega

/-- The cut-off keeps the events of the last 24 hours. -/
theorem le_of_ago (clock : Clock) {ago : Nat} (h : ago < 24) :
    clock.twentyFourHoursAgo ≤ clock.currentHour - ago * hour := by
  have hnow := lt_truncate_add clock.now
  have hordered := clock.ordered
  unfold Clock.twentyFourHoursAgo Clock.currentHour
  generalize truncate clock.now = current at hnow
  have hhours : (ago : Int) * hour ≤ 23 * hour :=
    Int.mul_le_mul_of_nonneg_right (by omega) (Int.le_of_lt hour_pos)
  omega

/-- The rows that are meant for a bucket are those of the events so many hours ago. -/
theorem countP_isAgo (events : List AlertDeduplicationEvent) (clock : Clock) (rule : String)
    {ago : Nat} (h : ago < 24) :
    (lastDay events clock).countP
        (HourlyKey.isAgo clock.currentHour rule ago ∘ AlertDeduplicationEvent.hourlyKey) =
      eventsAgo events clock.currentHour rule ago := by
  unfold lastDay eventsAgo
  rw [List.countP_filter]
  apply List.countP_congr
  intro event _
  show ((event.deduplicationRuleId == rule &&
    hoursAgo clock.currentHour event.dateHour == (ago : Int)) &&
      decide (clock.twentyFourHoursAgo ≤ event.dateHour)) = true <-> _
  rw [Bool.and_eq_true, Bool.and_eq_true, Bool.and_eq_true, beq_iff_eq, beq_iff_eq, beq_iff_eq,
    decide_eq_true_eq, hoursAgo_eq_iff, and_assoc]
  apply and_congr_right
  intro _
  constructor
  · intro hboth
    exact hboth.1
  · intro hdate
    refine ⟨hdate, ?_⟩
    rw [hdate]
    exact le_of_ago clock h

/-- An event of the last 24 hours is in one of them. -/
theorem exists_ago {event : AlertDeduplicationEvent}
    (h : event.inLastDay clock.currentHour = true) :
    exists ago : Nat, ago < 24 ∧ event.dateHour = clock.currentHour - ago * hour := by
  rcases exists_of_emod_eq_zero event.onHour with ⟨number, hnumber⟩
  unfold AlertDeduplicationEvent.inLastDay Clock.currentHour truncate at h
  rw [decide_eq_true_eq, hnumber] at h
  unfold Clock.currentHour truncate
  rw [hnumber]
  generalize clock.now / hour = current at h
  unfold hour at h ⊢
  exact ⟨(current - number).toNat, by omega, by omega⟩

theorem inLastDay_of_ago {event : AlertDeduplicationEvent} {ago : Nat} (hlt : ago < 24)
    (h : event.dateHour = clock.currentHour - ago * hour) :
    event.inLastDay clock.currentHour = true := by
  apply decide_eq_true
  rw [h]
  unfold hour
  omega

/-- Two of 24 hours have different labels. -/
theorem ofDay_ago_eq_iff {ago other : Nat} (h : ago < 24) (hother : other < 24) :
    ofDay (clock.currentHour - ago * hour) = ofDay (clock.currentHour - other * hour) <->
      ago = other := by
  unfold Clock.currentHour truncate
  rw [← Int.sub_mul, ← Int.sub_mul, ofDay_mul, ofDay_mul]
  omega

/-- With different names for the last 24 hours, the events of a name are those of its hour. -/
theorem countP_name (events : List AlertDeduplicationEvent) (rule : String)
    {name : AlertDeduplicationEvent -> Nat} {nameOf : Nat -> Nat}
    (hname : forall (event : AlertDeduplicationEvent) (ago : Nat),
      event.dateHour = clock.currentHour - ago * hour -> name event = nameOf ago)
    (hdiffer : forall ago other, ago < 24 -> other < 24 -> nameOf ago = nameOf other ->
      ago = other) {ago : Nat} (h : ago < 24) :
    (events.countP fun event => event.deduplicationRuleId == rule &&
        event.inLastDay clock.currentHour && name event == nameOf ago) =
      eventsAgo events clock.currentHour rule ago := by
  apply List.countP_congr
  intro event _
  rw [Bool.and_eq_true, Bool.and_eq_true, Bool.and_eq_true, beq_iff_eq, beq_iff_eq, beq_iff_eq,
    and_assoc]
  apply and_congr_right
  intro _
  constructor
  · intro hnamed
    rcases exists_ago hnamed.1 with ⟨other, hother, hdate⟩
    have hsame := (hname event other hdate).symm.trans hnamed.2
    rw [hdate, hdiffer other ago hother h hsame]
  · intro hdate
    exact ⟨inLastDay_of_ago h hdate, hname event ago hdate⟩

/-- A label counts the events of its hour. -/
theorem eventsLabelled_eq (events : List AlertDeduplicationEvent) (clock : Clock) (rule : String)
    {ago : Nat} (h : ago < 24) :
    eventsLabelled events clock.currentHour rule (ofDay (clock.currentHour - ago * hour)) =
      eventsAgo events clock.currentHour rule ago := by
  have hlabel : forall (event : AlertDeduplicationEvent) (ago : Nat),
      event.dateHour = clock.currentHour - ago * hour ->
        ofDay event.dateHour = ofDay (clock.currentHour - ago * hour) :=
    fun event ago hdate => congrArg ofDay hdate
  exact countP_name events rule hlabel
    (fun ago other hago hother => (ofDay_ago_eq_iff hago hother).mp) h

/-- The hours of the last 24 together have the events of the last 24 hours. -/
theorem sum_eventsAgo (events : List AlertDeduplicationEvent) (clock : Clock) (rule : String) :
    ((List.range 24).map (eventsAgo events clock.currentHour rule)).sum =
      eventsLastDay events clock.currentHour rule := by
  let index : AlertDeduplicationEvent -> Nat := fun event =>
    (hoursAgo clock.currentHour event.dateHour).toNat
  have hindex : forall (event : AlertDeduplicationEvent) (ago : Nat),
      event.dateHour = clock.currentHour - ago * hour -> index event = ago := by
    intro event ago hdate
    show (hoursAgo clock.currentHour event.dateHour).toNat = ago
    rw [(hoursAgo_eq_iff event ago).mpr hdate]
    rfl
  have hsum : (List.range 24).map (eventsAgo events clock.currentHour rule) =
      (List.range 24).map fun ago => events.countP fun event =>
        (event.deduplicationRuleId == rule && event.inLastDay clock.currentHour) &&
          index event == ago :=
    List.map_congr_left fun ago hlt =>
      (countP_name events rule hindex (fun _ _ _ _ hsame => hsame) (List.mem_range.mp hlt)).symm
  rw [hsum, sum_countP_index]
  apply List.countP_congr
  intro event _
  rw [Bool.and_eq_true, decide_eq_true_eq]
  constructor
  · intro hboth
    exact hboth.1
  · intro hin
    rcases exists_ago (Bool.and_eq_true_iff.mp hin).2 with ⟨ago, hlt, hdate⟩
    exact ⟨hin, by rw [hindex event ago hdate]; exact hlt⟩

/-- Every label is that of one of 24 hours. -/
theorem exists_ofDay_eq (clock : Clock) {label : Nat} (h : label < 24) :
    exists ago : Nat, ago < 24 ∧ ofDay (clock.currentHour - ago * hour) = label := by
  refine ⟨((clock.now / hour - label) % 24).toNat, by omega, ?_⟩
  unfold Clock.currentHour truncate
  rw [← Int.sub_mul, ofDay_mul]
  omega

/-!
## Buckets
-/

variable {results : Results events clock} {rule : String}

/-- What the bucket for some hours ago is given. -/
def held (results : Results events clock) (rule : String) (ago : Nat) : Nat :=
  lastCount (HourlyKey.isAgo clock.currentHour rule ago) results.alertsLast24Hours 0

theorem held_le {ago : Nat} (h : ago < 24) :
    held results rule ago ≤ eventsAgo events clock.currentHour rule ago := by
  rw [← countP_isAgo events clock rule h]
  exact (lastCount_countBy results.alertsLast24Hours_perm _).1

/-- The bucket is given all events of the hour exactly if they are of one provider. -/
theorem held_eq_iff {ago : Nat} (h : ago < 24) :
    held results rule ago = eventsAgo events clock.currentHour rule ago <->
      forall a b, a ∈ events -> b ∈ events ->
        a.deduplicationRuleId = rule -> b.deduplicationRuleId = rule ->
          a.dateHour = clock.currentHour - ago * hour ->
            b.dateHour = clock.currentHour - ago * hour ->
              a.providerId = b.providerId ∧ a.providerType = b.providerType := by
  have hlastDay : forall event, event ∈ events ->
      event.dateHour = clock.currentHour - ago * hour -> event ∈ lastDay events clock := by
    intro event hevent hdate
    apply List.mem_filter.mpr
    refine ⟨hevent, decide_eq_true ?_⟩
    rw [hdate]
    exact le_of_ago clock h
  have hmeant : forall event : AlertDeduplicationEvent,
      event.hourlyKey.isAgo clock.currentHour rule ago = true <->
        event.deduplicationRuleId = rule ∧
          event.dateHour = clock.currentHour - ago * hour := by
    intro event
    rw [← hoursAgo_eq_iff]
    show (event.deduplicationRuleId == rule && _ == _) = true <-> _
    rw [Bool.and_eq_true, beq_iff_eq, beq_iff_eq]
    rfl
  rw [← countP_isAgo events clock rule h]
  apply (lastCount_countBy results.alertsLast24Hours_perm _).2.trans
  constructor
  · intro hkey a b ha hb harule hbrule hadate hbdate
    have hsame := hkey a b (hlastDay a ha hadate) (hlastDay b hb hbdate)
      ((hmeant a).mpr ⟨harule, hadate⟩) ((hmeant b).mpr ⟨hbrule, hbdate⟩)
    exact ⟨congrArg HourlyKey.providerId hsame, congrArg HourlyKey.providerType hsame⟩
  · intro hprovider a b ha hb hameant hbmeant
    rcases (hmeant a).mp hameant with ⟨harule, hadate⟩
    rcases (hmeant b).mp hbmeant with ⟨hbrule, hbdate⟩
    have hsame := hprovider a b (List.mem_of_mem_filter ha) (List.mem_of_mem_filter hb)
      harule hbrule hadate hbdate
    unfold AlertDeduplicationEvent.hourlyKey
    rw [harule, hbrule, hadate, hbdate, hsame.1, hsame.2]

theorem alertsLast24Hours_eq {stats : DeduplicationStats}
    (h : (getAllDeduplicationStats results).lookup rule = some stats) :
    stats.alertsLast24Hours =
      bucketsOf clock.currentHour fun i => held results rule (23 - i) := by
  unfold getAllDeduplicationStats at h
  rw [addLast24Hours_foldl] at h
  rcases Option.map_eq_some_iff.mp h with ⟨entry, hentry, heq⟩
  have hempty := addAllTime_foldl_empty results.allTime
    (fun _ hnone => absurd hnone (Option.not_mem_none _)) entry hentry
  rw [← heq]
  show results.alertsLast24Hours.foldl (fillOf clock.currentHour rule) entry.alertsLast24Hours = _
  rw [hempty]
  exact fillOf_foldl clock.currentHour rule results.alertsLast24Hours fun _ => 0

theorem exists_stats (h : exists event, event ∈ events ∧ event.deduplicationRuleId = rule) :
    exists stats, (getAllDeduplicationStats results).lookup rule = some stats := by
  rcases h with ⟨event, hevent, hrule⟩
  have hrow : (event.allTimeKey, events.countP fun other =>
      other.allTimeKey = event.allTimeKey) ∈ results.allTime :=
    results.allTime_perm.mem_iff.mpr (mem_countBy.mpr ⟨⟨event, hevent, rfl⟩, rfl⟩)
  have hlisted : exists entry,
      (results.allTime.foldl (addAllTime clock.currentHour) []).lookup rule = some entry :=
    addAllTime_foldl_listed clock.currentHour results.allTime (Or.inr ⟨_, hrow, hrule⟩)
  rcases hlisted with ⟨entry, hentry⟩
  unfold getAllDeduplicationStats
  rw [addLast24Hours_foldl, hentry]
  exact ⟨_, rfl⟩

/-- The same numbers from the other end. -/
theorem sum_range_reverse (number : Nat -> Nat) :
    ((List.range 24).map fun i => number (23 - i)).sum = ((List.range 24).map number).sum := by
  have hperm : ((List.range 24).map fun i => 23 - i).Perm (List.range 24) := by decide
  have hsum := (hperm.map number).sum_eq
  rw [List.map_map] at hsum
  exact hsum

/-- Buckets that are right hold the events of their hours. -/
theorem held_eq_of_accounts (h : AccountsForEvents results rule)
    (hevent : exists event, event ∈ events ∧ event.deduplicationRuleId = rule) {ago : Nat}
    (hlt : ago < 24) :
    held results rule (23 - ago) = eventsAgo events clock.currentHour rule ago := by
  rcases h.listed hevent with ⟨stats, hstats⟩
  have hbucket : ⟨ofDay (clock.currentHour - ago * hour), held results rule (23 - ago)⟩ ∈
      stats.alertsLast24Hours := by
    rw [alertsLast24Hours_eq hstats]
    exact List.mem_map.mpr ⟨ago, List.mem_range.mpr hlt, rfl⟩
  have hnumber := h.hourly stats hstats _ hbucket
  rw [eventsLabelled_eq events clock rule hlt] at hnumber
  exact hnumber

theorem mirrored_of_accounts (h : AccountsForEvents results rule) :
    Mirrored events clock.currentHour rule := by
  rcases Classical.em (exists event, event ∈ events ∧ event.deduplicationRuleId = rule) with
    hevent | hnone
  · have hheld : forall ago, ago < 24 ->
        held results rule (23 - ago) = eventsAgo events clock.currentHour rule ago :=
      fun ago hlt => held_eq_of_accounts h hevent hlt
    -- no bucket is given too much, and together they are given everything
    have hle : forall ago, ago ∈ List.range 24 ->
        held results rule ago ≤ eventsAgo events clock.currentHour rule ago :=
      fun ago hmem => held_le (List.mem_range.mp hmem)
    have hsum : ((List.range 24).map (held results rule)).sum =
        ((List.range 24).map (eventsAgo events clock.currentHour rule)).sum := by
      rw [← sum_range_reverse]
      congr 1
      exact List.map_congr_left fun ago hmem => hheld ago (List.mem_range.mp hmem)
    have heq : forall ago, ago < 24 ->
        held results rule ago = eventsAgo events clock.currentHour rule ago :=
      fun ago hlt => Interleaved.eq_of_sum_eq hle hsum ago (List.mem_range.mpr hlt)
    refine ⟨?_, ?_⟩
    · intro a b ha hb harule hbrule hin hsame
      rcases exists_ago hin with ⟨ago, hlt, hdate⟩
      exact (held_eq_iff hlt).mp (heq ago hlt) a b ha hb harule hbrule hdate
        (hsame.symm.trans hdate)
    · intro ago hlt
      rw [← hheld ago hlt, heq (23 - ago) (by omega)]
  · have hzero : forall ago, eventsAgo events clock.currentHour rule ago = 0 := by
      intro ago
      apply List.countP_eq_zero.mpr
      intro event hevent htest
      exact hnone ⟨event, hevent, beq_iff_eq.mp (Bool.and_eq_true_iff.mp htest).1⟩
    refine ⟨?_, ?_⟩
    · intro a _ ha _ harule
      exact absurd ⟨a, ha, harule⟩ hnone
    · intro ago _
      rw [hzero, hzero]

/-- The distribution accounts for the events of a rule exactly if each hour has one provider and
the hours are the same from both ends. -/
theorem accountsForEvents_iff (results : Results events clock) (rule : String) :
    AccountsForEvents results rule <-> Mirrored events clock.currentHour rule := by
  constructor
  · exact mirrored_of_accounts
  · intro h
    have hheld : forall ago, ago < 24 ->
        held results rule (23 - ago) = eventsAgo events clock.currentHour rule ago := by
      intro ago hlt
      have hother : 23 - ago < 24 := by omega
      rw [h.mirrored ago hlt]
      apply (held_eq_iff hother).mpr
      intro a b ha hb harule hbrule hadate hbdate
      exact h.oneProvider a b ha hb harule hbrule (inLastDay_of_ago hother hadate)
        (hadate.trans hbdate.symm)
    refine ⟨exists_stats, ?_, ?_, ?_⟩
    · intro stats hstats label hlabel
      rcases exists_ofDay_eq clock hlabel with ⟨ago, hlt, hsame⟩
      rw [alertsLast24Hours_eq hstats]
      exact ⟨_, List.mem_map.mpr ⟨ago, List.mem_range.mpr hlt, rfl⟩, hsame⟩
    · intro stats hstats bucket hbucket
      rw [alertsLast24Hours_eq hstats] at hbucket
      rcases List.mem_map.mp hbucket with ⟨ago, hmem, heq⟩
      have hlt := List.mem_range.mp hmem
      rw [← heq, eventsLabelled_eq events clock rule hlt]
      exact hheld ago hlt
    · intro stats hstats
      rw [alertsLast24Hours_eq hstats, bucketsOf, sum_buckets, ← sum_eventsAgo]
      congr 1
      exact List.map_congr_left fun ago hmem => hheld ago (List.mem_range.mp hmem)

end

/-!
## One event
-/

namespace EventSample

/-- An event of the current hour. -/
def event : AlertDeduplicationEvent := ⟨"rule", "full", 0, some "id", some "grafana", rfl⟩

def clock : Clock := ⟨0, 0, Int.le_refl 0⟩

def results : Results [event] clock where
  allTime := [(event.allTimeKey, 1)]
  alertsLast24Hours := [(event.hourlyKey, 1)]
  allTime_perm := List.Perm.refl _
  alertsLast24Hours_perm := List.Perm.refl _

end EventSample

open EventSample in
/-- The event of the current hour is in the bucket for 23 hours ago. -/
theorem currentHour_not_accountsForEvents :
    ¬ forall (events : List AlertDeduplicationEvent) (clock : Clock)
        (results : Results events clock) (rule : String), AccountsForEvents results rule := by
  intro h
  have hmirrored := (mirrored_of_accounts (h [event] clock results "rule")).mirrored 0
    (Nat.succ_pos 23)
  have hcurrent : eventsAgo [event] clock.currentHour "rule" 0 = 1 := rfl
  have hfirst : eventsAgo [event] clock.currentHour "rule" (23 - 0) = 0 := rfl
  rw [hcurrent, hfirst] at hmirrored
  cases hmirrored

end Deduplication
end KeepGateway
