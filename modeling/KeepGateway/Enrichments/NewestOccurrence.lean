import KeepGateway.Enrichments.LastAlert
import Mathlib.Data.List.Induction
import Mathlib.Data.List.Nodup

/-!
# The newest occurrence

Whatever the order in which the occurrences of a fingerprint arrive, and however
often a call is repeated, the last alert shows the newest of them.
-/

namespace KeepGateway
namespace Enrichments

variable {τ : Type}

/-!
## Calls
-/

/-- The columns `firing_counter` and `unresolved_counter` are NOT NULL. -/
def countersStored (tracking : Fields τ) : Bool :=
  ["firing_counter", "unresolved_counter"].all fun column =>
    match tracking.lookup column with
    | some .none => false
    | _ => true

/-- One attempt of `set_last_alert`; an `IntegrityError` is rolled back. -/
def attemptSetLastAlert (row : Option (LastAlert τ)) (alert : Alert) (tracking : Fields τ) :
    Option (LastAlert τ) :=
  if countersStored tracking then some (setLastAlert row alert tracking) else row

/-- The attempts of one call: the loop goes on after an attempt that succeeds. -/
def callSetLastAlert (maxRetries : Nat) (row : Option (LastAlert τ)) (alert : Alert)
    (tracking : Fields τ) : Option (LastAlert τ) :=
  (List.range maxRetries).foldl (fun row _ => attemptSetLastAlert row alert tracking) row

/-- An occurrence with a value for every tracking column. -/
structure Occurrence (τ : Type) where
  alert : Alert
  tracking : Fields τ
  distinct : Dict.Distinct tracking
  complete : forall column, column ∈ trackingColumns -> column ∈ tracking.map Prod.fst
  stored : countersStored tracking = true

/-- The row after a sequence of calls, which starts without one. -/
def afterCalls (maxRetries : Nat) (calls : List (Occurrence τ)) : Option (LastAlert τ) :=
  calls.foldl (fun row o => callSetLastAlert maxRetries row o.alert o.tracking) none

/-- The row points at the occurrence and carries its tracking columns. -/
structure LastAlert.Shows (row : LastAlert τ) (o : Occurrence τ) : Prop where
  alertId : row.alertId = o.alert.id
  timestamp : row.timestamp = o.alert.timestamp
  alertHash : row.alertHash = o.alert.hash
  tracking : forall column, column ∈ trackingColumns ->
    row.tracking.lookup column = o.tracking.lookup column

/-!
## One call
-/

theorem writeTracking_cons (row : LastAlert τ) (key : String) (value : Value τ)
    (rest : Fields τ) :
    writeTracking row ((key, value) :: rest) =
      writeTracking
        (if key ∈ trackingColumns then
          { row with tracking := Dict.set key value row.tracking }
        else row)
        rest :=
  rfl

theorem writeTracking_lookup (row : LastAlert τ) {tracking : Fields τ}
    (hdistinct : Dict.Distinct tracking) {column : String} (hcolumn : column ∈ trackingColumns) :
    (writeTracking row tracking).tracking.lookup column =
      (tracking.lookup column).or (row.tracking.lookup column) := by
  induction tracking generalizing row with
  | nil => rfl
  | cons entry rest ih =>
      rcases entry with ⟨key, value⟩
      rcases List.nodup_cons.mp hdistinct with ⟨hfresh, hrest⟩
      rw [writeTracking_cons, ih _ hrest, Dict.lookup_cons_eq]
      by_cases hkey : key = column
      · subst hkey
        have hnone : rest.lookup key = none := Dict.lookup_eq_none.mpr hfresh
        rw [if_pos hcolumn, hnone, Dict.lookup_set_self]
        simp
      · rw [if_neg hkey]
        split
        · rw [Dict.lookup_set_ne hkey]
        · rfl

theorem writeTracking_pointer (row : LastAlert τ) (tracking : Fields τ) :
    (writeTracking row tracking).alertId = row.alertId ∧
      (writeTracking row tracking).timestamp = row.timestamp ∧
      (writeTracking row tracking).alertHash = row.alertHash := by
  induction tracking generalizing row with
  | nil => exact ⟨rfl, rfl, rfl⟩
  | cons entry rest ih =>
      rcases entry with ⟨key, value⟩
      rw [writeTracking_cons]
      rcases ih (if key ∈ trackingColumns then
          { row with tracking := Dict.set key value row.tracking } else row) with
        ⟨hid, htimestamp, hhash⟩
      rw [hid, htimestamp, hhash]
      split <;> exact ⟨rfl, rfl, rfl⟩

theorem Occurrence.lookup_isSome (o : Occurrence τ) {column : String}
    (hcolumn : column ∈ trackingColumns) : exists value, o.tracking.lookup column = some value := by
  cases hlookup : o.tracking.lookup column with
  | none => exact absurd (o.complete column hcolumn) (Dict.lookup_eq_none.mp hlookup)
  | some value => exact ⟨value, rfl⟩

/-- Whatever else the row held, writing an occurrence makes it show that occurrence. -/
theorem writeTracking_shows {row : LastAlert τ} {o : Occurrence τ}
    (hid : row.alertId = o.alert.id) (htimestamp : row.timestamp = o.alert.timestamp)
    (hhash : row.alertHash = o.alert.hash) : (writeTracking row o.tracking).Shows o := by
  rcases writeTracking_pointer row o.tracking with ⟨hid', htimestamp', hhash'⟩
  constructor
  · exact hid'.trans hid
  · exact htimestamp'.trans htimestamp
  · exact hhash'.trans hhash
  · intro column hcolumn
    rcases o.lookup_isSome hcolumn with ⟨value, hvalue⟩
    rw [writeTracking_lookup row o.distinct hcolumn, hvalue]
    rfl

theorem applyDismissLifecycle_shows {row : LastAlert τ} {o : Occurrence τ} (h : row.Shows o)
    (alertStatus : Option String) : (applyDismissLifecycle row alertStatus).Shows o := by
  simp only [applyDismissLifecycle]
  split
  · split
    · exact ⟨h.alertId, h.timestamp, h.alertHash, h.tracking⟩
    · exact h
  · split
    · exact ⟨h.alertId, h.timestamp, h.alertHash, h.tracking⟩
    · exact h

theorem setLastAlert_create (o : Occurrence τ) :
    (setLastAlert none o.alert o.tracking).Shows o :=
  writeTracking_shows rfl rfl rfl

theorem setLastAlert_repoint {row : LastAlert τ} {o : Occurrence τ}
    (hnewer : row.timestamp < o.alert.timestamp) :
    (setLastAlert (some row) o.alert o.tracking).Shows o := by
  simp only [setLastAlert, hnewer, if_true]
  exact applyDismissLifecycle_shows (writeTracking_shows rfl rfl rfl) o.alert.status

theorem setLastAlert_ignore {row : LastAlert τ} {o : Occurrence τ}
    (hnot : ¬ row.timestamp < o.alert.timestamp) :
    setLastAlert (some row) o.alert o.tracking = row := by
  simp only [setLastAlert, hnot, if_false]

theorem attemptSetLastAlert_eq (row : Option (LastAlert τ)) (o : Occurrence τ) :
    attemptSetLastAlert row o.alert o.tracking =
      some (setLastAlert row o.alert o.tracking) := by
  simp only [attemptSetLastAlert, o.stored, if_true]

/-- After an attempt the row is not older than the occurrence, so another one ignores it. -/
theorem attemptSetLastAlert_again (row : Option (LastAlert τ)) (o : Occurrence τ) :
    attemptSetLastAlert (attemptSetLastAlert row o.alert o.tracking) o.alert o.tracking =
      attemptSetLastAlert row o.alert o.tracking := by
  rw [attemptSetLastAlert_eq row, attemptSetLastAlert_eq]
  congr 1
  apply setLastAlert_ignore
  cases row with
  | none =>
      rw [(setLastAlert_create o).timestamp]
      exact Nat.lt_irrefl _
  | some row =>
      by_cases hnewer : row.timestamp < o.alert.timestamp
      · rw [(setLastAlert_repoint hnewer).timestamp]
        exact Nat.lt_irrefl _
      · rw [setLastAlert_ignore hnewer]
        exact hnewer

/-- The attempts of a call amount to one. -/
theorem callSetLastAlert_eq (retries : Nat) (row : Option (LastAlert τ)) (o : Occurrence τ) :
    callSetLastAlert (retries + 1) row o.alert o.tracking =
      some (setLastAlert row o.alert o.tracking) := by
  rw [← attemptSetLastAlert_eq]
  induction retries with
  | zero => rfl
  | succ n ih =>
      unfold callSetLastAlert at ih ⊢
      rw [List.range_succ, List.foldl_append, ih]
      exact attemptSetLastAlert_again row o

theorem afterCalls_snoc (retries : Nat) (calls : List (Occurrence τ)) (o : Occurrence τ) :
    afterCalls (retries + 1) (calls ++ [o]) =
      some (setLastAlert (afterCalls (retries + 1) calls) o.alert o.tracking) := by
  unfold afterCalls
  rw [List.foldl_append]
  exact callSetLastAlert_eq retries _ o

/-!
## Sequences of calls
-/

/-- The row shows one of the occurrences, and none of them is newer. -/
structure ShowsNewest (row : LastAlert τ) (calls : List (Occurrence τ)) (o : Occurrence τ) :
    Prop where
  called : o ∈ calls
  shown : row.Shows o
  newest : forall p, p ∈ calls -> p.alert.timestamp <= row.timestamp

theorem ShowsNewest.snoc_older {row : LastAlert τ} {calls : List (Occurrence τ)}
    {o next : Occurrence τ} (h : ShowsNewest row calls o)
    (holder : next.alert.timestamp <= row.timestamp) : ShowsNewest row (calls ++ [next]) o := by
  refine ⟨List.mem_append_left _ h.called, h.shown, ?_⟩
  intro p hp
  rcases List.mem_append.mp hp with hp | hp
  · exact h.newest p hp
  · rw [List.mem_singleton.mp hp]
    exact holder

theorem ShowsNewest.snoc_newer {row : LastAlert τ} {calls : List (Occurrence τ)}
    {next : Occurrence τ} (hshows : row.Shows next)
    (holder : forall p, p ∈ calls -> p.alert.timestamp <= next.alert.timestamp) :
    ShowsNewest row (calls ++ [next]) next := by
  refine ⟨List.mem_append_right _ List.mem_cons_self, hshows, ?_⟩
  intro p hp
  rw [hshows.timestamp]
  rcases List.mem_append.mp hp with hp | hp
  · exact holder p hp
  · exact Nat.le_of_eq (congrArg (fun o => o.alert.timestamp) (List.mem_singleton.mp hp))

/-- Induction on the calls, from the last one: a call creates the row, repoints it or is
ignored. -/
theorem afterCalls_showsNewest (retries : Nat) (calls : List (Occurrence τ)) :
    calls = [] ∧ afterCalls (retries + 1) calls = none ∨
      exists row o, afterCalls (retries + 1) calls = some row ∧ ShowsNewest row calls o := by
  induction calls using List.reverseRecOn with
  | nil => exact Or.inl ⟨rfl, rfl⟩
  | append_singleton calls next ih =>
      right
      rw [afterCalls_snoc]
      rcases ih with ⟨hnil, hnone⟩ | ⟨row, o, hrow, hnewest⟩
      · subst hnil
        rw [hnone]
        refine ⟨_, next, rfl, ShowsNewest.snoc_newer (setLastAlert_create next) ?_⟩
        intro p hp
        cases hp
      · rw [hrow]
        by_cases hnewer : row.timestamp < next.alert.timestamp
        · refine ⟨_, next, rfl, ShowsNewest.snoc_newer (setLastAlert_repoint hnewer) ?_⟩
          intro p hp
          exact Nat.le_of_lt (Nat.lt_of_le_of_lt (hnewest.newest p hp) hnewer)
        · refine ⟨_, o, rfl, ?_⟩
          rw [setLastAlert_ignore hnewer]
          exact hnewest.snoc_older (Nat.le_of_not_lt hnewer)

theorem setLastAlert_timestamp_le (row : LastAlert τ) (o : Occurrence τ) :
    row.timestamp <= (setLastAlert (some row) o.alert o.tracking).timestamp := by
  by_cases hnewer : row.timestamp < o.alert.timestamp
  · rw [(setLastAlert_repoint hnewer).timestamp]
    exact Nat.le_of_lt hnewer
  · exact Nat.le_of_eq (congrArg LastAlert.timestamp (setLastAlert_ignore hnewer).symm)

/-- The timestamp of the row never decreases along a sequence of calls. -/
def TimestampGrows (maxRetries : Nat) (calls : List (Occurrence τ)) : Prop :=
  forall before o after row, calls = before ++ o :: after ->
    afterCalls maxRetries before = some row ->
      exists row', afterCalls maxRetries (before ++ [o]) = some row' ∧
        row.timestamp <= row'.timestamp

theorem timestampGrows (retries : Nat) (calls : List (Occurrence τ)) :
    TimestampGrows (retries + 1) calls := by
  intro before o after row _ hrow
  rw [afterCalls_snoc, hrow]
  exact ⟨_, rfl, setLastAlert_timestamp_le row o⟩

/-- For occurrences with distinct timestamps, every sequence of calls over them, in any
order and with repetitions, ends in the row of the newest. -/
theorem lastAlert_shows_newest (retries : Nat) (occurrences calls : List (Occurrence τ))
    (hdistinct : (occurrences.map fun o => o.alert.timestamp).Nodup)
    (hcalls : forall o, o ∈ calls <-> o ∈ occurrences) (newest : Occurrence τ)
    (hmem : newest ∈ occurrences)
    (hnewest : forall o, o ∈ occurrences -> o.alert.timestamp <= newest.alert.timestamp) :
    (exists row, afterCalls (retries + 1) calls = some row ∧ row.Shows newest) ∧
      TimestampGrows (retries + 1) calls := by
  refine ⟨?_, timestampGrows retries calls⟩
  have hcalled : newest ∈ calls := (hcalls newest).mpr hmem
  rcases afterCalls_showsNewest retries calls with ⟨hnil, _⟩ | ⟨row, o, hrow, hshown⟩
  · rw [hnil] at hcalled
    cases hcalled
  · refine ⟨row, hrow, ?_⟩
    have ho : o ∈ occurrences := (hcalls o).mp hshown.called
    have htimestamp : o.alert.timestamp = newest.alert.timestamp := by
      apply Nat.le_antisymm (hnewest o ho)
      rw [← hshown.shown.timestamp]
      exact hshown.newest newest hcalled
    have heq : o = newest := List.inj_on_of_nodup_map hdistinct ho hmem htimestamp
    rw [← heq]
    exact hshown.shown

def firing (id timestamp : Nat) (counter : Int) : Occurrence String where
  alert := ⟨id, timestamp, none, some "firing"⟩
  tracking := [("last_received", .time "2024-01-01 00:00:00"), ("firing_counter", .number counter),
    ("unresolved_counter", .number counter), ("started_at", .text "2024-01-01T00:00:00Z"),
    ("firing_start_time", .none), ("firing_start_time_since_last_resolved", .none)]
  distinct := by simp [Dict.Distinct]
  complete := by simp [trackingColumns]
  stored := rfl

/-- An occurrence that arrives late is ignored, and a retry changes nothing. -/
theorem late_firing_ignored :
    (exists row, afterCalls 3 [firing 2 20 2, firing 1 10 1, firing 2 20 2] = some row ∧
        row.Shows (firing 2 20 2)) ∧
      TimestampGrows 3 [firing 2 20 2, firing 1 10 1, firing 2 20 2] :=
  lastAlert_shows_newest 2 [firing 1 10 1, firing 2 20 2]
    [firing 2 20 2, firing 1 10 1, firing 2 20 2] (by decide)
    (by intro o; simp only [List.mem_cons, List.not_mem_nil, or_false]; tauto)
    (firing 2 20 2) (by simp) (by
      intro o ho
      have hlate : (firing 1 10 1).alert.timestamp <= (firing 2 20 2).alert.timestamp := by decide
      rcases List.mem_cons.mp ho with h | h
      · exact h ▸ hlate
      · exact (List.mem_singleton.mp h) ▸ Nat.le_refl _)

end Enrichments
end KeepGateway
