import KeepGateway.Deduplication.HourlyDistribution

/-!
# Recorded events

The three counts of a rule in the statistics are those of the events under its id.
-/

namespace KeepGateway
namespace Deduplication

open Rows

/-- The events recorded under an id. -/
def recorded (events : List AlertDeduplicationEvent) (rule : String) :
    List AlertDeduplicationEvent :=
  events.filter fun event => event.deduplicationRuleId == rule

/-- A count of the statistics, with the type of the events that it is for. -/
structure Counts (kind : String) (count : DeduplicationStats -> Nat) : Prop where
  init : forall currentHour key, count (.init currentHour key) = 0
  add : forall deduplicationType number stats, count (stats.add deduplicationType number) =
    count stats + if deduplicationType = kind then number else 0
  alerts : forall buckets stats, count { stats with alertsLast24Hours := buckets } = count stats

theorem counts_full : Counts "full" DeduplicationStats.fullDedupCount where
  init := fun _ _ => rfl
  add := by
    intro deduplicationType number stats
    unfold DeduplicationStats.add
    split
    · rfl
    · split
      · rfl
      · split
        · rfl
        · rfl
  alerts := fun _ _ => rfl

theorem counts_partial : Counts "partial" DeduplicationStats.partialDedupCount where
  init := fun _ _ => rfl
  add := by
    intro deduplicationType number stats
    unfold DeduplicationStats.add
    split
    case isTrue hfull =>
      rw [if_neg (by rw [hfull]; decide)]
      rfl
    · split
      · rfl
      · split
        · rfl
        · rfl
  alerts := fun _ _ => rfl

theorem counts_none : Counts "none" DeduplicationStats.noneDedupCount where
  init := fun _ _ => rfl
  add := by
    intro deduplicationType number stats
    unfold DeduplicationStats.add
    split
    case isTrue hfull =>
      rw [if_neg (by rw [hfull]; decide)]
      rfl
    · split
      case isTrue hpart =>
        rw [if_neg (by rw [hpart]; decide)]
        rfl
      · split
        · rfl
        · rfl
  alerts := fun _ _ => rfl

/-- A count of a rule, which is 0 without an entry. -/
def countOf (count : DeduplicationStats -> Nat) (rule : String) (stats : AllStats) : Nat :=
  ((stats.lookup rule).map count).getD 0

/-- The key is of a rule and a type. -/
def AllTimeKey.isOf (rule kind : String) (key : AllTimeKey) : Bool :=
  key.deduplicationRuleId == rule && key.deduplicationType == kind

section

variable {kind : String} {count : DeduplicationStats -> Nat}

theorem countOf_addAllTime (hcount : Counts kind count) (currentHour : Int) (rule : String)
    (stats : AllStats) (row : AllTimeKey × Nat) :
    countOf count rule (addAllTime currentHour stats row) =
      countOf count rule stats + if row.1.isOf rule kind then row.2 else 0 := by
  unfold countOf addAllTime AllTimeKey.isOf
  rcases Classical.em (row.1.deduplicationRuleId = rule) with hrule | hrule
  · rw [hrule, Dict.lookup_set_self, Option.map_some, Option.getD_some, hcount.add,
      beq_self_eq_true, Bool.true_and]
    simp only [beq_iff_eq]
    congr 1
    cases stats.lookup rule with
    | none => exact hcount.init _ _
    | some entry => rfl
  · rw [Dict.lookup_set_ne hrule, beq_eq_false_iff_ne.mpr hrule]
    rfl

theorem countOf_addAllTime_foldl (hcount : Counts kind count) (currentHour : Int) (rule : String)
    (rows : List (AllTimeKey × Nat)) (stats : AllStats) :
    countOf count rule (rows.foldl (addAllTime currentHour) stats) =
      countOf count rule stats +
        (rows.map fun row => if row.1.isOf rule kind then row.2 else 0).sum := by
  induction rows generalizing stats with
  | nil => rfl
  | cons row rows ih =>
      rw [List.foldl_cons, ih, countOf_addAllTime hcount, List.map_cons, List.sum_cons,
        Nat.add_assoc]

theorem countOf_addLast24Hours_foldl (hcount : Counts kind count) (currentHour : Int)
    (rule : String) (rows : List (HourlyKey × Nat)) (stats : AllStats) :
    countOf count rule (rows.foldl (addLast24Hours currentHour) stats) =
      countOf count rule stats := by
  unfold countOf
  rw [addLast24Hours_foldl]
  cases stats.lookup rule with
  | none => rfl
  | some entry => exact hcount.alerts _ entry

/-- Each count of a rule is that of the events of its type under the id of the rule. -/
theorem countOf_getAllDeduplicationStats (hcount : Counts kind count)
    {events : List AlertDeduplicationEvent} {clock : Clock} (results : Results events clock)
    (rule : String) :
    countOf count rule (getAllDeduplicationStats results) =
      (recorded events rule).countP fun event => event.deduplicationType == kind := by
  unfold getAllDeduplicationStats recorded
  rw [countOf_addLast24Hours_foldl hcount, countOf_addAllTime_foldl hcount,
    (results.allTime_perm.map _).sum_nat, sum_countBy AlertDeduplicationEvent.allTimeKey events,
    List.countP_filter]
  show 0 + _ = _
  rw [Nat.zero_add]
  apply List.countP_congr
  intro event _
  rw [Bool.and_comm]
  rfl

end

/-- Events of kinds that exclude each other are counted one kind after the other. -/
theorem countP_add_of_disjoint {α : Type} {p q : α -> Bool} (items : List α)
    (h : forall item, p item = true -> q item = false) :
    items.countP p + items.countP q = items.countP fun item => p item || q item := by
  induction items with
  | nil => rfl
  | cons item rest ih =>
      rw [List.countP_cons, List.countP_cons, List.countP_cons, ← ih]
      cases hp : p item with
      | true =>
          rw [h item hp, Bool.true_or, if_pos rfl, if_neg Bool.false_ne_true]
          omega
      | false =>
          rw [Bool.false_or, if_neg Bool.false_ne_true]
          omega

end Deduplication
end KeepGateway
