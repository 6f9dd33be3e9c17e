import KeepGateway.Providers.Distribution
import Mathlib.Data.List.Count

/-!
# Alerts in the distribution

When every alert of the last 24 hours is counted in the bucket of its hour.
-/

namespace KeepGateway
namespace Providers

open Cel (Dialect)
open Hours Rows

/-!
## Counted alerts
-/

/-- The time of the alert is in the last 24 hours. -/
def Alert.inWindow (now : Int) (alert : Alert) : Bool :=
  decide (twentyFourHoursAgo now ≤ alert.timestamp ∧ alert.timestamp ≤ now)

def Alert.hasProvider (providerId providerType : Option String) (alert : Alert) : Bool :=
  alert.providerId == providerId && alert.providerType == providerType

/-- The full hours from the truncated start of the window to the alert. -/
def Alert.hoursAfterStart (now : Int) (alert : Alert) : Int :=
  (alert.timestamp - truncate (twentyFourHoursAgo now)) / hour

section

variable {dialect : Dialect} {alerts : List Alert} {now : Int}

/-- The numbers of a provider, if it is in the distribution. -/
def numbers (results : Results dialect alerts now) (providerId providerType : Option String) :
    List Nat :=
  match (getProviderDistribution results).lookup (providerKey providerId providerType) with
  | none => []
  | some entry => entry.alertLast24Hours.map HourNumber.number

/-- The alert is in the bucket: it would have one less without it. -/
def CountedIn (results : Results dialect alerts now) (alert : Alert) (bucket : Int) : Prop :=
  exists index : Nat, bucket = index ∧
    forall without : Results dialect (alerts.erase alert) now,
      (numbers results alert.providerId alert.providerType).getD index 0 =
        (numbers without alert.providerId alert.providerType).getD index 0 + 1

/-- The numbers of the providers count the alerts of the window, each in the bucket of its
hour. -/
structure CountsAlerts (results : Results dialect alerts now) : Prop where
  sum : forall alert, alert ∈ alerts ->
    (numbers results alert.providerId alert.providerType).sum = alerts.countP fun other =>
      other.inWindow now && other.hasProvider alert.providerId alert.providerType
  bucket : forall alert, alert ∈ alerts -> alert.inWindow now = true ->
    CountedIn results alert (alert.hoursAfterStart now)

end

/-- Where there are alerts in the window, it starts on the hour, none of them is at its end and
the database writes their hours as they are; no later alert is written as one of the window; and
the keys of their providers are no others'. -/
structure Aligned (dialect : Dialect) (alerts : List Alert) (now : Int) : Prop where
  window : forall alert, alert ∈ alerts -> alert.inWindow now = true ->
    now % hour = 0 ∧ alert.timestamp ≠ now ∧
      timestampFormat dialect alert.timestamp = truncate alert.timestamp
  later : forall alert, alert ∈ alerts -> now < alert.timestamp ->
    ¬ (twentyFourHoursAgo now ≤ timestampFormat dialect alert.timestamp ∧
      timestampFormat dialect alert.timestamp < now)
  keys : forall alert other, alert ∈ alerts -> other ∈ alerts -> alert.inWindow now = true ->
    providerKey alert.providerId alert.providerType =
      providerKey other.providerId other.providerType ->
        alert.hasProvider other.providerId other.providerType = true

/-!
## The loop
-/

/-- The hits of a row for the bucket of a key. -/
def hitsFor (now : Int) (key : String) (i : Nat) (row : Row) : Nat :=
  if providerKey row.key.providerId row.key.providerType == key &&
    bucketIndex now row.key.time == i then row.hits else 0

theorem addHits_buckets (now : Int) (row : Row) (number : Nat -> Nat) :
    addHits now row (buckets (fun i => i) number) =
      buckets (fun i => i) fun i =>
        number i + if bucketIndex now row.key.time == i then row.hits else 0 := by
  show (if 0 ≤ bucketIndex now row.key.time ∧ bucketIndex now row.key.time < 24 then
    (buckets (fun i => i) number).modify (bucketIndex now row.key.time).toNat
      (fun bucket => { bucket with number := bucket.number + row.hits })
    else buckets (fun i => i) number) = _
  rw [modify_buckets _ number fun n => n + row.hits]
  generalize bucketIndex now row.key.time = index
  split
  case isTrue hin =>
    apply buckets_congr
    intro i hi
    have hindex : index.toNat = i <-> index = i := by omega
    simp only [hindex, beq_iff_eq]
    split
    · rfl
    · rfl
  case isFalse hout =>
    apply buckets_congr
    intro i hi
    have hindex : ¬ index = i := by omega
    rw [beq_eq_false_iff_ne.mpr hindex]
    rfl

/-- The distribution has the numbers: of a key without an entry they are zero. -/
def HasNumbers (distribution : Distribution) (number : String -> Nat -> Nat) : Prop :=
  forall key, match distribution.lookup key with
    | none => forall i, number key i = 0
    | some entry => entry.alertLast24Hours = buckets (fun i => i) (number key)

theorem HasNumbers.addRow (now : Int) {distribution : Distribution}
    {number : String -> Nat -> Nat} (h : HasNumbers distribution number) (row : Row) :
    HasNumbers (addRow now distribution row) fun key i =>
      number key i + hitsFor now key i row := by
  intro key
  unfold Providers.addRow
  rcases Classical.em (providerKey row.key.providerId row.key.providerType = key) with heq | hne
  · have hentry : (entryOf distribution row).alertLast24Hours =
        buckets (fun i => i) (number key) := by
      have hkey := h key
      unfold entryOf
      rw [heq]
      cases hold : distribution.lookup key with
      | none =>
          rw [hold] at hkey
          show buckets (fun i => i) (fun _ => 0) = buckets (fun i => i) (number key)
          exact buckets_congr fun i _ => (hkey i).symm
      | some entry =>
          rw [hold] at hkey
          exact hkey
    rw [heq, Dict.lookup_set_self]
    show addHits now row (entryOf distribution row).alertLast24Hours = _
    rw [hentry, addHits_buckets]
    apply buckets_congr
    intro i _
    have hhits : hitsFor now key i row =
        if bucketIndex now row.key.time == i then row.hits else 0 := by
      unfold hitsFor
      rw [heq, beq_self_eq_true, Bool.true_and]
    exact congrArg (number key i + ·) hhits.symm
  · have hkey := h key
    have hzero : forall i, hitsFor now key i row = 0 := by
      intro i
      unfold hitsFor
      rw [beq_eq_false_iff_ne.mpr hne, Bool.false_and]
      rfl
    rw [Dict.lookup_set_ne hne]
    simp only [hzero, Nat.add_zero]
    exact hkey

theorem HasNumbers.foldl (now : Int) (rows : List Row) {distribution : Distribution}
    {number : String -> Nat -> Nat} (h : HasNumbers distribution number) :
    HasNumbers (rows.foldl (Providers.addRow now) distribution) fun key i =>
      number key i + (rows.map (hitsFor now key i)).sum := by
  induction rows generalizing distribution number with
  | nil => exact h
  | cons row rows ih =>
      have hrest := ih (h.addRow now row)
      simp only [Nat.add_assoc] at hrest
      exact hrest

/-!
## Numbers
-/

section

variable {dialect : Dialect} {alerts : List Alert} {now : Int}

/-- The alert is selected, with the key, and its time is read as one of the bucket. -/
def Alert.isCounted (dialect : Dialect) (now : Int) (key : String) (i : Nat) (alert : Alert) :
    Bool :=
  decide (twentyFourHoursAgo now ≤ alert.timestamp) &&
    (providerKey alert.providerId alert.providerType == key &&
      bucketIndex now (timestampFormat dialect alert.timestamp) == i)

/-- The hits for a bucket are the alerts that are counted in it. -/
theorem sum_hitsFor (results : Results dialect alerts now) (key : String) (i : Nat) :
    (results.rows.map (hitsFor now key i)).sum =
      alerts.countP (Alert.isCounted dialect now key i) := by
  let meant : GroupKey -> Bool := fun group =>
    providerKey group.providerId group.providerType == key && bucketIndex now group.time == i
  have hrows : results.rows.map (hitsFor now key i) =
      (results.rows.map fun row => (row.key, row.hits)).map fun group =>
        if meant group.1 then group.2 else 0 := by
    rw [List.map_map]
    rfl
  rw [hrows, (results.hits.map _).sum_eq, sum_countBy]
  unfold selected
  rw [List.countP_filter]
  apply List.countP_congr
  intro alert _
  rw [Bool.and_comm]
  rfl

/-- A provider has no number, or those of the alerts that are counted. -/
theorem numbers_spec (results : Results dialect alerts now)
    (providerId providerType : Option String) :
    (numbers results providerId providerType).sum =
        ((List.range 24).map fun i => alerts.countP
          (Alert.isCounted dialect now (providerKey providerId providerType) i)).sum ∧
      forall i, (numbers results providerId providerType).getD i 0 =
        if i < 24 then alerts.countP
          (Alert.isCounted dialect now (providerKey providerId providerType) i) else 0 := by
  have hempty : HasNumbers [] fun _ _ => 0 := fun _ _ => rfl
  have hrun := hempty.foldl now results.rows (providerKey providerId providerType)
  simp only [Nat.zero_add, sum_hitsFor] at hrun
  unfold numbers getProviderDistribution
  cases hentry : (results.rows.foldl (addRow now) []).lookup
      (providerKey providerId providerType) with
  | none =>
      rw [hentry] at hrun
      have hzero : forall i, alerts.countP
          (Alert.isCounted dialect now (providerKey providerId providerType) i) = 0 := hrun
      constructor
      · simp only [hzero]
        rfl
      · intro i
        rw [hzero, ite_self]
        rfl
  | some entry =>
      rw [hentry] at hrun
      show (entry.alertLast24Hours.map HourNumber.number).sum = _ ∧ forall i,
        (entry.alertLast24Hours.map HourNumber.number).getD i 0 = _
      rw [hrun]
      exact ⟨sum_buckets _ _, fun i => getD_buckets _ _ i⟩

/-- There are results: the rows in the order in which they are grouped. -/
def Results.grouped (dialect : Dialect) (alerts : List Alert) (now : Int) :
    Results dialect alerts now where
  rows := (countBy (Alert.groupKey dialect) (selected alerts now)).map fun group =>
    ⟨group.1, group.2, (((selected alerts now).filter fun alert =>
      alert.groupKey dialect = group.1).map Alert.timestamp).max?.getD 0⟩
  hits := by
    rw [List.map_map]
    exact List.Perm.of_eq (List.map_id _)
  last := by
    intro row hrow
    rcases List.mem_map.mp hrow with ⟨group, hgroup, heq⟩
    rcases (mem_countBy.mp hgroup).1 with ⟨alert, halert, hkey⟩
    have hmem : alert ∈ (selected alerts now).filter fun alert =>
        alert.groupKey dialect = group.1 := List.mem_filter.mpr ⟨halert, decide_eq_true hkey⟩
    rw [← heq]
    cases hmax : (((selected alerts now).filter fun alert =>
        alert.groupKey dialect = group.1).map Alert.timestamp).max? with
    | none =>
        rw [List.max?_eq_none_iff, List.map_eq_nil_iff] at hmax
        exact absurd hmax (List.ne_nil_of_mem hmem)
    | some last => rfl

/-!
## Hours
-/

/-- `HH` moves an hour by half a day, if at all. -/
theorem timestampFormat_shift (dialect : Dialect) (timestamp : Int) :
    exists shift : Int, (shift = 0 ∨ shift = 12 ∨ shift = -12) ∧
      timestampFormat dialect timestamp = truncate timestamp + shift * hour := by
  have hplain : truncate timestamp = truncate timestamp + 0 * hour := by
    rw [Int.zero_mul, Int.add_zero]
  cases dialect with
  | mysql => exact ⟨0, Or.inl rfl, hplain⟩
  | sqlite => exact ⟨0, Or.inl rfl, hplain⟩
  | postgresql =>
      refine ⟨hourOfHalfDay (ofDay timestamp) - timestamp / hour % 24, ?_, ?_⟩
      · unfold hourOfHalfDay ofDay
        omega
      · show timestamp / (24 * hour) * (24 * hour) +
          (hourOfHalfDay (ofDay timestamp) : Int) * hour = _
        unfold hourOfHalfDay ofDay truncate hour
        omega

/-- The bucket of an alert in the window is that of its hour exactly if the window starts on the
hour, the alert is not at its end and its hour is written as it is. -/
theorem bucketIndex_eq_iff {alert : Alert} (h : alert.inWindow now = true) :
    (bucketIndex now (timestampFormat dialect alert.timestamp) = alert.hoursAfterStart now ∧
        0 ≤ alert.hoursAfterStart now ∧ alert.hoursAfterStart now < 24) <->
      now % hour = 0 ∧ alert.timestamp ≠ now ∧
        timestampFormat dialect alert.timestamp = truncate alert.timestamp := by
  rcases timestampFormat_shift dialect alert.timestamp with ⟨shift, hshift, hformat⟩
  have hwindow := of_decide_eq_true h
  rw [hformat]
  unfold bucketIndex Alert.hoursAfterStart
  unfold twentyFourHoursAgo truncate hour at *
  omega

/-- The times that are read as one of the window. -/
theorem bucketIndex_range (time : Int) :
    (0 ≤ bucketIndex now time ∧ bucketIndex now time < 24) <->
      twentyFourHoursAgo now ≤ time ∧ time < now := by
  unfold bucketIndex twentyFourHoursAgo hour
  omega

/-!
## Counts
-/

/-- The alert is counted for the key, in some bucket. -/
def Alert.isShown (dialect : Dialect) (now : Int) (key : String) (alert : Alert) : Bool :=
  decide (twentyFourHoursAgo now ≤ alert.timestamp) &&
    providerKey alert.providerId alert.providerType == key &&
      decide (twentyFourHoursAgo now ≤ timestampFormat dialect alert.timestamp ∧
        timestampFormat dialect alert.timestamp < now)

theorem sum_numbers (results : Results dialect alerts now)
    (providerId providerType : Option String) :
    (numbers results providerId providerType).sum =
      alerts.countP (Alert.isShown dialect now (providerKey providerId providerType)) := by
  let index : Alert -> Int := fun alert =>
    bucketIndex now (timestampFormat dialect alert.timestamp)
  let meant : Alert -> Bool := fun alert =>
    decide (twentyFourHoursAgo now ≤ alert.timestamp) &&
      providerKey alert.providerId alert.providerType == providerKey providerId providerType &&
        decide (0 ≤ index alert)
  have hcounted : forall i : Nat, alerts.countP
      (Alert.isCounted dialect now (providerKey providerId providerType) i) =
        alerts.countP fun alert => meant alert && (index alert).toNat == i := by
    intro i
    apply List.countP_congr
    intro alert _
    unfold Alert.isCounted
    simp only [meant, Bool.and_eq_true, beq_iff_eq, decide_eq_true_eq, and_assoc]
    apply and_congr_right
    intro _
    apply and_congr_right
    intro _
    show index alert = i <-> _
    omega
  rw [(numbers_spec results providerId providerType).1]
  simp only [hcounted]
  rw [sum_countP_index]
  apply List.countP_congr
  intro alert _
  unfold Alert.isShown
  simp only [meant, Bool.and_eq_true, beq_iff_eq, decide_eq_true_eq, ← bucketIndex_range,
    and_assoc]
  apply and_congr_right
  intro _
  apply and_congr_right
  intro _
  show _ <-> 0 ≤ index alert ∧ index alert < 24
  omega

theorem countedIn_iff (results : Results dialect alerts now) {alert : Alert}
    (halert : alert ∈ alerts) (hwindow : alert.inWindow now = true) (bucket : Int) :
    CountedIn results alert bucket <->
      bucketIndex now (timestampFormat dialect alert.timestamp) = bucket ∧
        0 ≤ bucket ∧ bucket < 24 := by
  have hselected := (of_decide_eq_true hwindow).1
  have hself : forall i : Nat, alert.isCounted dialect now
      (providerKey alert.providerId alert.providerType) i = true <->
        bucketIndex now (timestampFormat dialect alert.timestamp) = i := by
    intro i
    unfold Alert.isCounted
    rw [decide_eq_true hselected, beq_self_eq_true, Bool.true_and, Bool.true_and, beq_iff_eq]
  have hgetD : forall (without : Results dialect (alerts.erase alert) now) (i : Nat), i < 24 ->
      ((numbers results alert.providerId alert.providerType).getD i 0 =
          (numbers without alert.providerId alert.providerType).getD i 0 + 1 <->
        bucketIndex now (timestampFormat dialect alert.timestamp) = i) := by
    intro without i hi
    have hpos : bucketIndex now (timestampFormat dialect alert.timestamp) = i ->
        0 < alerts.countP (Alert.isCounted dialect now
          (providerKey alert.providerId alert.providerType) i) := fun heq =>
      List.countP_pos_iff.mpr ⟨alert, halert, (hself i).mpr heq⟩
    rw [(numbers_spec results _ _).2, (numbers_spec without _ _).2, if_pos hi, if_pos hi,
      List.countP_erase]
    simp only [halert, true_and, hself]
    split
    case isTrue heq =>
      have hcount := hpos heq
      omega
    case isFalse hne => omega
  constructor
  · intro h
    rcases h with ⟨i, hi, hcount⟩
    have hwithout := hcount (Results.grouped dialect (alerts.erase alert) now)
    rcases Nat.lt_or_ge i 24 with hlt | hge
    · rw [hi]
      exact ⟨(hgetD _ i hlt).mp hwithout, by omega, by omega⟩
    · rw [(numbers_spec results _ _).2, (numbers_spec _ _ _).2, if_neg (Nat.not_lt_of_le hge),
        if_neg (Nat.not_lt_of_le hge)] at hwithout
      cases hwithout
  · intro h
    rcases h with ⟨heq, hnonneg, hlt⟩
    rcases Int.eq_ofNat_of_zero_le hnonneg with ⟨i, hi⟩
    rw [hi] at heq
    exact ⟨i, hi, fun without => (hgetD without i (by omega)).mpr heq⟩

/-- An alert whose hour is written as it is has it in the window. -/
theorem format_in_window {alert : Alert} (hwindow : alert.inWindow now = true)
    (haligned : now % hour = 0 ∧ alert.timestamp ≠ now ∧
      timestampFormat dialect alert.timestamp = truncate alert.timestamp) :
    twentyFourHoursAgo now ≤ timestampFormat dialect alert.timestamp ∧
      timestampFormat dialect alert.timestamp < now := by
  rcases haligned with ⟨honHour, hne, hformat⟩
  have hin := of_decide_eq_true hwindow
  rw [hformat]
  unfold twentyFourHoursAgo truncate hour at *
  omega

theorem Alert.hasProvider_iff {alert : Alert} {providerId providerType : Option String} :
    alert.hasProvider providerId providerType = true <->
      alert.providerId = providerId ∧ alert.providerType = providerType := by
  unfold hasProvider
  rw [Bool.and_eq_true, beq_iff_eq, beq_iff_eq]

theorem Alert.isShown_iff {alert : Alert} {key : String} :
    alert.isShown dialect now key = true <->
      twentyFourHoursAgo now ≤ alert.timestamp ∧
        providerKey alert.providerId alert.providerType = key ∧
          twentyFourHoursAgo now ≤ timestampFormat dialect alert.timestamp ∧
            timestampFormat dialect alert.timestamp < now := by
  unfold isShown
  rw [Bool.and_eq_true, Bool.and_eq_true, decide_eq_true_eq, decide_eq_true_eq, beq_iff_eq,
    and_assoc]

/-- Where the alerts of the window are aligned, all of a provider are shown. -/
theorem isShown_of_inWindow {providerId providerType : Option String} {alert : Alert}
    (haligned : now % hour = 0 ∧ alert.timestamp ≠ now ∧
      timestampFormat dialect alert.timestamp = truncate alert.timestamp)
    (h : (alert.inWindow now && alert.hasProvider providerId providerType) = true) :
    alert.isShown dialect now (providerKey providerId providerType) = true := by
  rcases Bool.and_eq_true_iff.mp h with ⟨hwindow, hprovider⟩
  rcases Alert.hasProvider_iff.mp hprovider with ⟨hid, htype⟩
  apply Alert.isShown_iff.mpr
  refine ⟨(of_decide_eq_true hwindow).1, ?_, format_in_window hwindow haligned⟩
  rw [hid, htype]

/-- The distribution counts the alerts of the last 24 hours exactly if they are aligned with its
buckets. -/
theorem countsAlerts_iff (results : Results dialect alerts now) :
    CountsAlerts results <-> Aligned dialect alerts now := by
  have hbucket : forall alert, alert ∈ alerts -> alert.inWindow now = true ->
      (CountedIn results alert (alert.hoursAfterStart now) <->
        now % hour = 0 ∧ alert.timestamp ≠ now ∧
          timestampFormat dialect alert.timestamp = truncate alert.timestamp) :=
    fun alert halert hwindow =>
      (countedIn_iff results halert hwindow _).trans (bucketIndex_eq_iff hwindow)
  constructor
  · intro h
    have hwindow : forall alert, alert ∈ alerts -> alert.inWindow now = true ->
        now % hour = 0 ∧ alert.timestamp ≠ now ∧
          timestampFormat dialect alert.timestamp = truncate alert.timestamp :=
      fun alert halert hin => (hbucket alert halert hin).mp (h.bucket alert halert hin)
    -- the sums leave no place for an alert that is shown for a provider and is not its own
    have honly : forall alert other, alert ∈ alerts -> other ∈ alerts ->
        other.isShown dialect now (providerKey alert.providerId alert.providerType) = true ->
          (other.inWindow now && other.hasProvider alert.providerId alert.providerType) = true := by
      intro alert other halert hother hshown
      have hsum := h.sum alert halert
      rw [sum_numbers] at hsum
      refine (countP_eq_iff ?_).mp hsum.symm other hother hshown
      intro b hb hown
      exact isShown_of_inWindow (hwindow b hb (Bool.and_eq_true_iff.mp hown).1) hown
    refine ⟨hwindow, ?_, ?_⟩
    · intro alert halert hlater hformat
      have hcutoff : twentyFourHoursAgo now ≤ alert.timestamp := by
        unfold twentyFourHoursAgo hour
        omega
      have hshown : alert.isShown dialect now
          (providerKey alert.providerId alert.providerType) = true :=
        Alert.isShown_iff.mpr ⟨hcutoff, rfl, hformat⟩
      have hin := (Bool.and_eq_true_iff.mp (honly alert alert halert halert hshown)).1
      exact absurd (of_decide_eq_true hin).2 (Int.not_le.mpr hlater)
    · intro alert other halert hother hin hkey
      have hshown : alert.isShown dialect now
          (providerKey other.providerId other.providerType) = true :=
        Alert.isShown_iff.mpr ⟨(of_decide_eq_true hin).1, hkey,
          format_in_window hin (hwindow alert halert hin)⟩
      exact (Bool.and_eq_true_iff.mp (honly other alert hother halert hshown)).2
  · intro h
    refine ⟨?_, fun alert halert hin => (hbucket alert halert hin).mpr (h.window alert halert hin)⟩
    intro alert halert
    rw [sum_numbers]
    apply List.countP_congr
    intro other hother
    constructor
    · intro hshown
      rcases Alert.isShown_iff.mp hshown with ⟨hcutoff, hkey, hformat⟩
      have hin : other.inWindow now = true := by
        apply decide_eq_true
        refine ⟨hcutoff, Int.not_lt.mp fun hlater => ?_⟩
        exact h.later other hother hlater hformat
      exact Bool.and_eq_true_iff.mpr ⟨hin, h.keys other alert hother halert hin hkey⟩
    · intro hown
      exact isShown_of_inWindow (h.window other hother (Bool.and_eq_true_iff.mp hown).1) hown

end

/-!
## The first hour
-/

namespace AlertSample

/-- An alert of a quarter past midnight. -/
def alert : Alert := ⟨some "id", some "grafana", 900000000⟩

/-- A quarter past midnight on the next day. -/
def now : Int := 24 * hour + 900000000

end AlertSample

open AlertSample in
/-- The alert at the start of a window that does not start on the hour is in no bucket. -/
theorem firstHour_not_countsAlerts :
    ¬ forall (dialect : Dialect) (alerts : List Alert) (now : Int)
        (results : Results dialect alerts now), CountsAlerts results := by
  intro h
  have hsum := (h .sqlite [alert] now (Results.grouped .sqlite [alert] now)).sum alert
    List.mem_cons_self
  rw [sum_numbers] at hsum
  have hshown : [alert].countP (Alert.isShown .sqlite now
    (providerKey alert.providerId alert.providerType)) = 0 := by decide
  have hown : ([alert].countP fun other => other.inWindow now &&
    other.hasProvider alert.providerId alert.providerType) = 1 := by decide
  rw [hshown, hown] at hsum
  cases hsum

end Providers
end KeepGateway
