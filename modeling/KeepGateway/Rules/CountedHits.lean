import KeepGateway.Rules.RuleDistribution

/-!
# Counted hits

Which links the distribution counts, and when it counts all of them.
-/

namespace KeepGateway
namespace Rules
namespace Distribution

open Calendar (Instant)
open Providers (hourOfHalfDay)
open Rows

/-!
## The dictionary
-/

/-- The times of a rule and a fingerprint. -/
def timesOf (distribution : RuleDistribution) (ruleId : Nat) (ruleFingerprint : Option String) :
    Times :=
  Dict.getD (Dict.getD distribution ruleId []) ruleFingerprint []

def hitsAt (distribution : RuleDistribution) (ruleId : Nat) (ruleFingerprint : Option String)
    (time : String) : Nat :=
  Dict.getD (timesOf distribution ruleId ruleFingerprint) time 0

/-- The group is one of the rule and the fingerprint. -/
def GroupKey.isOf (ruleId : Nat) (ruleFingerprint : Option String) (key : GroupKey) : Bool :=
  decide (key.ruleId = ruleId ∧ key.ruleFingerprint = ruleFingerprint)

def GroupKey.isAt (ruleId : Nat) (ruleFingerprint : Option String) (time : String)
    (key : GroupKey) : Bool :=
  key.isOf ruleId ruleFingerprint && decide (key.time = time)

section

variable (ruleId : Nat) (ruleFingerprint : Option String)

theorem timesOf_addResult (distribution : RuleDistribution) (result : GroupKey × Nat) :
    timesOf (addResult distribution result) ruleId ruleFingerprint =
      if result.1.isOf ruleId ruleFingerprint then
        Dict.set result.1.time result.2 (timesOf distribution ruleId ruleFingerprint)
      else timesOf distribution ruleId ruleFingerprint := by
  unfold timesOf addResult GroupKey.isOf
  dsimp only
  rw [Dict.getD_set]
  rcases Classical.em (result.1.ruleId = ruleId) with hrule | hrule
  · rw [if_pos hrule, Dict.getD_set, hrule]
    rcases Classical.em (result.1.ruleFingerprint = ruleFingerprint) with hfp | hfp
    · rw [if_pos hfp, if_pos (decide_eq_true ⟨rfl, hfp⟩), hfp]
    · rw [if_neg hfp, if_neg fun h => hfp (of_decide_eq_true h).2]
  · rw [if_neg hrule, if_neg fun h => hrule (of_decide_eq_true h).1]

theorem hitsAt_addResult (time : String) (distribution : RuleDistribution)
    (result : GroupKey × Nat) :
    hitsAt (addResult distribution result) ruleId ruleFingerprint time =
      if result.1.isAt ruleId ruleFingerprint time then result.2
      else hitsAt distribution ruleId ruleFingerprint time := by
  unfold hitsAt
  rw [timesOf_addResult]
  unfold GroupKey.isAt
  cases hof : result.1.isOf ruleId ruleFingerprint with
  | true =>
      rw [if_pos rfl, Dict.getD_set, Bool.true_and]
      exact if_congr decide_eq_true_iff.symm rfl rfl
  | false => rw [if_neg Bool.false_ne_true, Bool.false_and, if_neg Bool.false_ne_true]

/-- The last group of a time is the one that counts. -/
theorem hitsAt_foldl (time : String) (rows : List (GroupKey × Nat))
    (distribution : RuleDistribution) :
    hitsAt (rows.foldl addResult distribution) ruleId ruleFingerprint time =
      lastCount (GroupKey.isAt ruleId ruleFingerprint time) rows
        (hitsAt distribution ruleId ruleFingerprint time) := by
  induction rows generalizing distribution with
  | nil => rfl
  | cons row rows ih =>
      rw [List.foldl_cons, ih, hitsAt_addResult]
      rfl

theorem distinct_timesOf_foldl (rows : List (GroupKey × Nat)) {distribution : RuleDistribution}
    (h : Dict.Distinct (timesOf distribution ruleId ruleFingerprint)) :
    Dict.Distinct (timesOf (rows.foldl addResult distribution) ruleId ruleFingerprint) := by
  induction rows generalizing distribution with
  | nil => exact h
  | cons row rows ih =>
      apply ih
      rw [timesOf_addResult]
      split
      · exact h.set _ _
      · exact h

/-!
## The links
-/

/-- The active links to the incidents of a rule and a fingerprint. -/
def linksOf (db : Database) (now : Instant) : List LastAlertToIncident :=
  db.links.filter fun link => link.isActive now && db.incidents.any fun incident =>
    incident.id == link.incidentId && incident.ruleId == some ruleId &&
      incident.ruleFingerprint == ruleFingerprint

theorem mem_linksOf {db : Database} {now : Instant} {link : LastAlertToIncident} :
    link ∈ linksOf ruleId ruleFingerprint db now <->
      link ∈ db.links ∧ link.isActive now = true ∧ exists incident, incident ∈ db.incidents ∧
        incident.id = link.incidentId ∧ incident.ruleId = some ruleId ∧
          incident.ruleFingerprint = ruleFingerprint := by
  unfold linksOf
  rw [List.mem_filter, Bool.and_eq_true_iff, List.any_eq_true]
  refine and_congr_right fun _ => and_congr_right fun _ => ?_
  constructor
  · rintro ⟨incident, hmem, h⟩
    rw [Bool.and_eq_true_iff, Bool.and_eq_true_iff, beq_iff_eq, beq_iff_eq, beq_iff_eq] at h
    exact ⟨incident, hmem, h.1.1, h.1.2, h.2⟩
  · rintro ⟨incident, hmem, hid, hrule, hfp⟩
    refine ⟨incident, hmem, ?_⟩
    rw [Bool.and_eq_true_iff, Bool.and_eq_true_iff, beq_iff_eq, beq_iff_eq, beq_iff_eq]
    exact ⟨⟨hid, hrule⟩, hfp⟩

theorem mem_selected {db : Database} {tenantId : String} {now : Instant} {row : Joined} :
    row ∈ selected db tenantId now <->
      (row.1.1 ∈ db.rules ∧ row.1.1.tenantId = tenantId) ∧
        (row.1.2 ∈ db.incidents ∧ row.1.2.ruleId = some row.1.1.id) ∧
          row.2 ∈ db.links ∧ row.1.2.id = row.2.incidentId ∧ row.2.isActive now = true := by
  unfold selected
  rw [List.mem_filter, Bool.and_eq_true_iff, beq_iff_eq]
  constructor
  · rintro ⟨hjoined, hactive, htenant⟩
    rcases mem_join hjoined with ⟨hpair, hlink, hincident⟩
    rcases mem_join hpair with ⟨hrule, hmem, hof⟩
    exact ⟨⟨hrule, htenant⟩, ⟨hmem, beq_iff_eq.mp hof⟩, hlink, beq_iff_eq.mp hincident, hactive⟩
  · rintro ⟨⟨hrule, htenant⟩, ⟨hmem, hof⟩, hlink, hincident, hactive⟩
    exact ⟨join_mem (join_mem hrule hmem (beq_iff_eq.mpr hof)) hlink (beq_iff_eq.mpr hincident),
      hactive, htenant⟩

theorem nodup_join {α β : Type} (on : α -> β -> Bool) {left : List α} {right : List β}
    (hleft : left.Nodup) (hright : right.Nodup) : (join on left right).Nodup := by
  refine List.nodup_flatMap.mpr ⟨?_, ?_⟩
  · intro a _
    refine (hright.filter (on a)).map ?_
    intro b b' heq
    exact congrArg Prod.snd heq
  · refine hleft.imp ?_
    intro a a' hne row hrow hrow'
    rcases List.mem_map.mp hrow with ⟨b, _, rfl⟩
    rcases List.mem_map.mp hrow' with ⟨b', _, heq⟩
    exact hne (congrArg Prod.fst heq).symm

theorem nodup_selected (db : Database) (tenantId : String) (now : Instant) :
    (selected db tenantId now).Nodup := by
  refine List.Nodup.filter _ (nodup_join _ (nodup_join _ ?_ ?_) ?_)
  · exact db.ruleIds.of_map
  · exact db.incidentIds.of_map
  · exact db.primaryKeys.of_map

/-- Two rows of one rule and one link are the same. -/
theorem row_eq {db : Database} {tenantId : String} {now : Instant} {a b : Joined}
    (ha : a ∈ selected db tenantId now) (hb : b ∈ selected db tenantId now)
    (hrule : a.1.1.id = b.1.1.id) (hlink : a.2 = b.2) : a = b := by
  rcases mem_selected.mp ha with ⟨⟨harule, _⟩, ⟨hainc, _⟩, _, haid, _⟩
  rcases mem_selected.mp hb with ⟨⟨hbrule, _⟩, ⟨hbinc, _⟩, _, hbid, _⟩
  have hsame : a.1.1 = b.1.1 := List.inj_on_of_nodup_map db.ruleIds harule hbrule hrule
  have hincident : a.1.2 = b.1.2 := by
    refine List.inj_on_of_nodup_map db.incidentIds hainc hbinc ?_
    rw [haid, hbid, hlink]
  exact Prod.ext (Prod.ext hsame hincident) hlink

/-- The rows of a rule of the tenant and a fingerprint are its links, each once. -/
theorem perm_linksOf {db : Database} {tenantId : String} (now : Instant) {rule : Rule}
    (hrule : rule ∈ db.rules) (htenant : rule.tenantId = tenantId)
    (format : Instant -> String) :
    (((selected db tenantId now).filter fun row =>
        (groupKey format row).isOf rule.id ruleFingerprint).map Prod.snd).Perm
      (linksOf rule.id ruleFingerprint db now) := by
  refine (List.perm_ext_iff_of_nodup ?_ ?_).mpr ?_
  · refine ((nodup_selected db tenantId now).filter _).map_on ?_
    intro a ha b hb hlink
    rcases List.mem_filter.mp ha with ⟨hamem, haof⟩
    rcases List.mem_filter.mp hb with ⟨hbmem, hbof⟩
    exact row_eq hamem hbmem ((of_decide_eq_true haof).1.trans (of_decide_eq_true hbof).1.symm)
      hlink
  · exact db.primaryKeys.of_map.filter _
  · intro link
    rw [List.mem_map, mem_linksOf]
    constructor
    · rintro ⟨row, hrow, rfl⟩
      rcases List.mem_filter.mp hrow with ⟨hmem, hof⟩
      rcases mem_selected.mp hmem with ⟨_, ⟨hincident, hruleId⟩, hlink, hid, hactive⟩
      rcases of_decide_eq_true hof with ⟨hsame, hfp⟩
      refine ⟨hlink, hactive, row.1.2, hincident, hid, ?_, hfp⟩
      rw [hruleId]
      exact congrArg some hsame
    · rintro ⟨hlink, hactive, incident, hincident, hid, hruleId, hfp⟩
      refine ⟨((rule, incident), link), List.mem_filter.mpr ⟨?_, ?_⟩, rfl⟩
      · exact mem_selected.mpr ⟨⟨hrule, htenant⟩, ⟨hincident, hruleId⟩, hlink, hid, hactive⟩
      · exact decide_eq_true ⟨rfl, hfp⟩

end

/-!
## One rule and one fingerprint
-/

section

variable {db : Database} {tenantId : String} {now : Instant} {rule : Rule}
  {ruleFingerprint : Option String} {format : Instant -> String}

theorem countP_linksOf (hrule : rule ∈ db.rules) (htenant : rule.tenantId = tenantId)
    (time : String) :
    (selected db tenantId now).countP
        (GroupKey.isAt rule.id ruleFingerprint time ∘ groupKey format) =
      (linksOf rule.id ruleFingerprint db now).countP fun link => format link.timestamp = time := by
  rw [← (perm_linksOf ruleFingerprint now hrule htenant format).countP_eq, List.countP_map,
    List.countP_filter]
  apply List.countP_congr
  intro row _
  show ((groupKey format row).isOf rule.id ruleFingerprint && _) = true <-> _
  rw [Bool.and_comm]
  rfl

/-- The links under one time are all of one incident exactly if their rows are one group. -/
theorem oneGroup_iff (hrule : rule ∈ db.rules) (htenant : rule.tenantId = tenantId)
    (time : String) :
    (forall a b, a ∈ selected db tenantId now -> b ∈ selected db tenantId now ->
        (groupKey format a).isAt rule.id ruleFingerprint time = true ->
          (groupKey format b).isAt rule.id ruleFingerprint time = true ->
            groupKey format a = groupKey format b) <->
      forall a b, a ∈ linksOf rule.id ruleFingerprint db now ->
        b ∈ linksOf rule.id ruleFingerprint db now -> format a.timestamp = time ->
          format b.timestamp = time -> a.incidentId = b.incidentId := by
  have hperm := perm_linksOf ruleFingerprint now hrule htenant format
  constructor
  · intro h a b ha hb hatime hbtime
    rcases List.mem_map.mp (hperm.mem_iff.mpr ha) with ⟨row, hrow, rfl⟩
    rcases List.mem_map.mp (hperm.mem_iff.mpr hb) with ⟨row', hrow', rfl⟩
    rcases List.mem_filter.mp hrow with ⟨hmem, hof⟩
    rcases List.mem_filter.mp hrow' with ⟨hmem', hof'⟩
    have hsame := h row row' hmem hmem'
      (Bool.and_eq_true_iff.mpr ⟨hof, decide_eq_true hatime⟩)
      (Bool.and_eq_true_iff.mpr ⟨hof', decide_eq_true hbtime⟩)
    rw [← (mem_selected.mp hmem).2.2.2.1, ← (mem_selected.mp hmem').2.2.2.1]
    exact congrArg GroupKey.incidentId hsame
  · intro h a b ha hb hat hbt
    rcases Bool.and_eq_true_iff.mp hat with ⟨haof, hatime⟩
    rcases Bool.and_eq_true_iff.mp hbt with ⟨hbof, hbtime⟩
    have halink := hperm.mem_iff.mp
      (List.mem_map_of_mem (List.mem_filter.mpr ⟨ha, haof⟩))
    have hblink := hperm.mem_iff.mp
      (List.mem_map_of_mem (List.mem_filter.mpr ⟨hb, hbof⟩))
    have hincident := h a.2 b.2 halink hblink (of_decide_eq_true hatime)
      (of_decide_eq_true hbtime)
    rcases mem_selected.mp ha with ⟨⟨harule, _⟩, _, _, haid, _⟩
    rcases mem_selected.mp hb with ⟨⟨hbrule, _⟩, _, _, hbid, _⟩
    rcases of_decide_eq_true haof with ⟨haruleId, hafp⟩
    rcases of_decide_eq_true hbof with ⟨hbruleId, hbfp⟩
    have hsame : a.1.1 = b.1.1 :=
      List.inj_on_of_nodup_map db.ruleIds harule hbrule (haruleId.trans hbruleId.symm)
    rw [← haid, ← hbid] at hincident
    rw [GroupKey.mk.injEq]
    exact ⟨congrArg Rule.id hsame, congrArg Rule.name hsame, hincident, hafp.trans hbfp.symm,
      (of_decide_eq_true hatime).trans (of_decide_eq_true hbtime).symm⟩

/-- What is shown under a time is at most the number of its links, and all of them exactly if they
are of one incident. -/
theorem hitsAt_spec (hrule : rule ∈ db.rules) (htenant : rule.tenantId = tenantId)
    (results : Results format db tenantId now) (time : String) :
    hitsAt (results.rows.foldl addResult []) rule.id ruleFingerprint time ≤
        ((linksOf rule.id ruleFingerprint db now).countP fun link =>
          format link.timestamp = time) ∧
      (hitsAt (results.rows.foldl addResult []) rule.id ruleFingerprint time =
          ((linksOf rule.id ruleFingerprint db now).countP fun link =>
            format link.timestamp = time) <->
        forall a b, a ∈ linksOf rule.id ruleFingerprint db now ->
          b ∈ linksOf rule.id ruleFingerprint db now -> format a.timestamp = time ->
            format b.timestamp = time -> a.incidentId = b.incidentId) := by
  rw [hitsAt_foldl, ← countP_linksOf hrule htenant, ← oneGroup_iff hrule htenant]
  exact lastCount_countBy results.perm _

end

/-!
## Every hit
-/

/-- The link is in the hour of a time, or in its minute. -/
def inUnit (minute : Bool) (t : Instant) (link : LastAlertToIncident) : Bool :=
  decide (link.timestamp.microseconds / Instant.unit minute =
    t.microseconds / Instant.unit minute)

/-- Each time shows the links of its hour or minute, and all times together show all links. -/
structure CountsHits (db : Database) (now : Instant) (minute : Bool)
    (distribution : RuleDistribution) (rule : Rule) (ruleFingerprint : Option String) : Prop where
  labelled : forall t : Instant,
    hitsAt distribution rule.id ruleFingerprint (t.timeText minute t.hour) =
      (linksOf rule.id ruleFingerprint db now).countP (inUnit minute t)
  total : ((timesOf distribution rule.id ruleFingerprint).map Prod.snd).sum =
    (linksOf rule.id ruleFingerprint db now).length

/-- The links of one hour or minute are all to one incident, and PostgreSQL writes their hours as
they are. -/
structure ToldApart (db : Database) (now : Instant) (dialect : Dialect) (minute : Bool)
    (rule : Rule) (ruleFingerprint : Option String) : Prop where
  oneIncident : forall a b, a ∈ linksOf rule.id ruleFingerprint db now ->
    b ∈ linksOf rule.id ruleFingerprint db now ->
      a.timestamp.microseconds / Instant.unit minute =
        b.timestamp.microseconds / Instant.unit minute -> a.incidentId = b.incidentId
  firstHalf : dialect = .postgresql -> forall link,
    link ∈ linksOf rule.id ruleFingerprint db now ->
      1 ≤ link.timestamp.hour ∧ link.timestamp.hour ≤ 12

theorem hourOfHalfDay_self {hour : Nat} (h : 1 ≤ hour ∧ hour ≤ 12) : hourOfHalfDay hour = hour := by
  unfold hourOfHalfDay
  omega

/-- The text of a format is the one with the hour of the day, unless that is no hour of half a
day. -/
theorem format_eq {dialect : Dialect} {minute : Bool} {format : Instant -> String}
    (hformat : timestampFormat dialect minute = some format) {t : Instant}
    (ht : dialect = .postgresql -> 1 ≤ t.hour ∧ t.hour ≤ 12) :
    format t = t.timeText minute t.hour := by
  cases dialect with
  | mysql =>
      cases hformat
      rfl
  | sqlite =>
      cases hformat
      rfl
  | postgresql =>
      cases hformat
      show t.timeText minute (hourOfHalfDay t.hour) = _
      rw [hourOfHalfDay_self (ht rfl)]
  | other => cases hformat

section

variable {db : Database} {tenantId : String} {now : Instant} {rule : Rule}
  {ruleFingerprint : Option String} {format : Instant -> String} {dialect : Dialect}
  {minute : Bool}

/-- Where the formats write the hours as they are, the links of a time are those of its unit. -/
theorem countP_inUnit (hformat : timestampFormat dialect minute = some format)
    (hhalf : dialect = .postgresql -> forall link,
      link ∈ linksOf rule.id ruleFingerprint db now ->
        1 ≤ link.timestamp.hour ∧ link.timestamp.hour ≤ 12) (t : Instant) :
    (linksOf rule.id ruleFingerprint db now).countP (inUnit minute t) =
      (linksOf rule.id ruleFingerprint db now).countP fun link =>
        format link.timestamp = t.timeText minute t.hour := by
  apply List.countP_congr
  intro link hlink
  unfold inUnit
  rw [decide_eq_true_iff, decide_eq_true_iff, ← Instant.timeText_hour_eq_iff,
    format_eq hformat fun hpg => hhalf hpg link hlink]

/-- A time that is shown as it should be has an hour that is written. -/
theorem firstHalf_of_labelled (hformat : timestampFormat dialect minute = some format)
    (hrule : rule ∈ db.rules) (htenant : rule.tenantId = tenantId)
    (results : Results format db tenantId now) {link : LastAlertToIncident}
    (hlink : link ∈ linksOf rule.id ruleFingerprint db now)
    (hlabelled : hitsAt (results.rows.foldl addResult []) rule.id ruleFingerprint
        (link.timestamp.timeText minute link.timestamp.hour) =
      (linksOf rule.id ruleFingerprint db now).countP (inUnit minute link.timestamp))
    (hpg : dialect = .postgresql) : 1 ≤ link.timestamp.hour ∧ link.timestamp.hour ≤ 12 := by
  have hpos : 0 < (linksOf rule.id ruleFingerprint db now).countP
      (inUnit minute link.timestamp) :=
    List.countP_pos_iff.mpr ⟨link, hlink, decide_eq_true rfl⟩
  rw [← hlabelled] at hpos
  have hshown := Nat.lt_of_lt_of_le hpos (hitsAt_spec hrule htenant results _).1
  rcases List.countP_pos_iff.mp hshown with ⟨other, _, htext⟩
  rw [hpg] at hformat
  cases hformat
  have hhour := (Instant.timeText_eq_iff.mp (of_decide_eq_true htext)).2.1
  unfold hourOfHalfDay at hhour
  omega

/-- Where the links are told apart, every time shows those that it is the text of. -/
theorem hitsAt_of_toldApart (hformat : timestampFormat dialect minute = some format)
    (hrule : rule ∈ db.rules) (htenant : rule.tenantId = tenantId)
    (results : Results format db tenantId now)
    (h : ToldApart db now dialect minute rule ruleFingerprint) (time : String) :
    hitsAt (results.rows.foldl addResult []) rule.id ruleFingerprint time =
      (linksOf rule.id ruleFingerprint db now).countP fun link =>
        format link.timestamp = time := by
  have htext : forall link, link ∈ linksOf rule.id ruleFingerprint db now ->
      format link.timestamp = link.timestamp.timeText minute link.timestamp.hour :=
    fun link hlink => format_eq hformat fun hpg => h.firstHalf hpg link hlink
  refine (hitsAt_spec hrule htenant results time).2.mpr ?_
  intro a b ha hb hatime hbtime
  refine h.oneIncident a b ha hb (Instant.timeText_hour_eq_iff.mp ?_)
  rw [← htext a ha, hatime, ← htext b hb, hbtime]

theorem total_of_toldApart (hformat : timestampFormat dialect minute = some format)
    (hrule : rule ∈ db.rules) (htenant : rule.tenantId = tenantId)
    (results : Results format db tenantId now)
    (h : ToldApart db now dialect minute rule ruleFingerprint) :
    ((timesOf (results.rows.foldl addResult []) rule.id ruleFingerprint).map Prod.snd).sum =
      (linksOf rule.id ruleFingerprint db now).length := by
  have hshown := hitsAt_of_toldApart hformat hrule htenant results h
  have hdistinct : Dict.Distinct
      (timesOf (results.rows.foldl addResult []) rule.id ruleFingerprint) :=
    distinct_timesOf_foldl rule.id ruleFingerprint results.rows Dict.distinct_nil
  have hsum := @Rows.sum_counts _ _ _ (fun link : LastAlertToIncident => format link.timestamp)
    (linksOf rule.id ruleFingerprint db now) _ hdistinct fun entry hentry => by
      rw [← hshown entry.1]
      exact (hdistinct.getD hentry 0).symm
  rw [hsum, List.countP_eq_length]
  intro link hlink
  have hpos : 0 < (linksOf rule.id ruleFingerprint db now).countP fun other =>
      format other.timestamp = format link.timestamp :=
    List.countP_pos_iff.mpr ⟨link, hlink, decide_eq_true rfl⟩
  rw [← hshown (format link.timestamp)] at hpos
  exact decide_eq_true (Dict.mem_keys_of_getD (Nat.ne_of_gt hpos))

theorem countsHits_iff (hformat : timestampFormat dialect minute = some format)
    (hrule : rule ∈ db.rules) (htenant : rule.tenantId = tenantId)
    (results : Results format db tenantId now) :
    CountsHits db now minute (results.rows.foldl addResult []) rule ruleFingerprint <->
      ToldApart db now dialect minute rule ruleFingerprint := by
  constructor
  · intro h
    have hhalf : dialect = .postgresql -> forall link,
        link ∈ linksOf rule.id ruleFingerprint db now ->
          1 ≤ link.timestamp.hour ∧ link.timestamp.hour ≤ 12 := fun hpg link hlink =>
      firstHalf_of_labelled hformat hrule htenant results hlink (h.labelled link.timestamp) hpg
    refine ⟨?_, hhalf⟩
    intro a b ha hb hsame
    have hshown := h.labelled a.timestamp
    rw [countP_inUnit hformat hhalf] at hshown
    refine (hitsAt_spec hrule htenant results _).2.mp hshown a b ha hb ?_ ?_
    · exact format_eq hformat fun hpg => hhalf hpg a ha
    · rw [format_eq hformat fun hpg => hhalf hpg b hb]
      exact Instant.timeText_hour_eq_iff.mpr hsame.symm
  · intro h
    refine ⟨?_, total_of_toldApart hformat hrule htenant results h⟩
    intro t
    rw [countP_inUnit hformat h.firstHalf]
    exact hitsAt_of_toldApart hformat hrule htenant results h _

/-- The call returns, and for each rule of the tenant and each fingerprint it counts every hit. -/
def CountsEveryHit (dialect : Dialect) (minute : Bool)
    (query : forall format, Results format db tenantId now) : Prop :=
  exists distribution, getRuleDistribution dialect minute query = .ok distribution ∧
    forall rule, rule ∈ db.rules -> rule.tenantId = tenantId -> forall ruleFingerprint,
      CountsHits db now minute distribution rule ruleFingerprint

theorem countsEveryHit_iff (dialect : Dialect) (minute : Bool)
    (query : forall format, Results format db tenantId now) :
    CountsEveryHit dialect minute query <-> dialect ≠ .other ∧
      forall rule, rule ∈ db.rules -> rule.tenantId = tenantId -> forall ruleFingerprint,
        ToldApart db now dialect minute rule ruleFingerprint := by
  unfold CountsEveryHit getRuleDistribution
  cases hformat : timestampFormat dialect minute with
  | none =>
      have hother : dialect = .other := by
        cases dialect with
        | other => rfl
        | mysql => cases hformat
        | postgresql => cases hformat
        | sqlite => cases hformat
      constructor
      · rintro ⟨distribution, h, _⟩
        cases h
      · rintro ⟨hsupported, _⟩
        exact absurd hother hsupported
  | some format =>
      constructor
      · rintro ⟨distribution, h, hall⟩
        cases h
        refine ⟨fun hother => ?_, ?_⟩
        · rw [hother] at hformat
          cases hformat
        · intro rule hrule htenant ruleFingerprint
          exact (countsHits_iff hformat hrule htenant (query format)).mp
            (hall rule hrule htenant ruleFingerprint)
      · rintro ⟨_, hall⟩
        refine ⟨_, rfl, ?_⟩
        intro rule hrule htenant ruleFingerprint
        exact (countsHits_iff hformat hrule htenant (query format)).mpr
          (hall rule hrule htenant ruleFingerprint)

end

/-!
## Two incidents of one rule
-/

/-- Some day at a minute of it. -/
def someDay (minute : Nat) (h : minute < 1440) : Instant where
  microseconds := 738000 * Calendar.day + minute * 60000000
  bounded := by
    unfold Calendar.maxOrdinal Calendar.day
    omega

/-- Two incidents of a rule, with one alert each in the same hour. -/
def twoIncidents : Database where
  rules := [⟨1, "keep", "cpu"⟩]
  incidents := [⟨1, some 1, some "host"⟩, ⟨2, some 1, some "host"⟩]
  links := [⟨"keep", "a", 1, nullForDeletedAt, someDay 590 (by decide)⟩,
    ⟨"keep", "b", 2, nullForDeletedAt, someDay 595 (by decide)⟩]
  ruleIds := by decide
  incidentIds := by decide
  primaryKeys := by decide

def twoIncidentsQuery (format : Instant -> String) :
    Results format twoIncidents "keep" (someDay 600 (by decide)) :=
  ⟨_, List.Perm.refl _⟩

theorem twoIncidents_not_counted : ¬ CountsEveryHit .sqlite false twoIncidentsQuery := by
  rintro ⟨distribution, h, hall⟩
  cases h
  have hrule : (⟨1, "keep", "cpu"⟩ : Rule) ∈ twoIncidents.rules := List.mem_cons_self
  have hformat : timestampFormat .sqlite false = some fun t => t.timeText false t.hour := rfl
  have htold := (countsHits_iff hformat hrule rfl
    (twoIncidentsQuery fun t => t.timeText false t.hour)).mp (hall _ hrule rfl (some "host"))
  have hsame := htold.oneIncident twoIncidents.links[0] twoIncidents.links[1] (by decide)
    (by decide) (by decide)
  cases hsame

end Distribution
end Rules
end KeepGateway
