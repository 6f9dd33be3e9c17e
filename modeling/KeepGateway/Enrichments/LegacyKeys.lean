import KeepGateway.Enrichments.Normalization
import Mathlib.Tactic.SplitIfs

/-!
# Legacy keys

When `normalize_enrichments` takes the legacy keys of a dismissal, and what a permanent
dismissal leaves of an earlier one that had a time.
-/

namespace KeepGateway
namespace Enrichments

open Run

variable {τ : Type}

/-- `_LEGACY_ENRICHMENT_KEYS` -/
def legacyKeys : List String := ["dismissed", "dismiss_until"]

/-- Every key is a column or a legacy key. -/
def KnownKeys (e : Fields τ) : Prop :=
  forall key, key ∈ e.map Prod.fst -> key ∈ enrichmentColumns ∨ key ∈ legacyKeys

/-- Both timestamps are given beside the flag, and the legacy one is not taken. -/
def Clash (e : Fields τ) : Prop :=
  (e.lookup "dismissed").isSome = true ∧ (e.lookup "dismiss_until").isSome = true ∧
    exists ts, e.lookup "dismissed_until" = some ts ∧ ts ≠ .none

/-!
## Keys that are left
-/

theorem lookup_dismissed_translate (e : Fields τ) : (translate e).lookup "dismissed" = none := by
  rw [lookup_translate_unset e (by decide) (by decide) (by decide)]
  have herased : (Dict.erase "dismissed" e).lookup "dismissed" = none := by
    rw [Dict.lookup_erase, if_pos rfl]
  unfold withoutTaken
  cases hdismissed : e.lookup "dismissed" with
  | some dismissed =>
      simp only
      unfold dismissTimestamp
      split
      · exact (Dict.lookup_erase_ne (by decide) _).trans herased
      · exact herased
  | none =>
      cases e.lookup "dismiss_until" with
      | some ts =>
          simp only
          rw [Dict.lookup_erase_ne (by decide), hdismissed]
      | none => exact hdismissed

/-- The other timestamp is taken where there is one. -/
theorem lookup_dismissTimestamp (e : Fields τ) :
    (dismissTimestamp e).2.lookup "dismiss_until" = none <->
      e.lookup "dismiss_until" = none ∨ (e.lookup "dismissed_until").getD .none = .none := by
  unfold dismissTimestamp
  cases (e.lookup "dismissed_until").getD .none with
  | none =>
      simp only
      rw [Dict.lookup_erase, if_pos rfl]
      exact ⟨fun _ => .inr trivial, fun _ => rfl⟩
  | _ => simp

theorem getD_eq_none_iff {value : Option (Value τ)} :
    value.getD .none = .none <-> ¬ exists ts, value = some ts ∧ ts ≠ .none := by
  cases value with
  | none => simp
  | some ts => simp

/-- The legacy timestamp is left when the flag is given and the other timestamp is taken. -/
theorem lookup_dismissUntil_translate (e : Fields τ) :
    (translate e).lookup "dismiss_until" = none <-> ¬ Clash e := by
  rw [lookup_translate_unset e (by decide) (by decide) (by decide)]
  unfold withoutTaken Clash
  cases hdismissed : e.lookup "dismissed" with
  | some dismissed =>
      simp only
      rw [lookup_dismissTimestamp, Dict.lookup_erase_ne (by decide),
        Dict.lookup_erase_ne (by decide), getD_eq_none_iff]
      cases e.lookup "dismiss_until" with
      | none => simp
      | some until_ => simp
  | none =>
      have hclash : ¬ ((none : Option (Value τ)).isSome = true ∧
          (e.lookup "dismiss_until").isSome = true ∧
            exists ts, e.lookup "dismissed_until" = some ts ∧ ts ≠ .none) :=
        fun h => Bool.noConfusion h.1
      refine ⟨fun _ => hclash, fun _ => ?_⟩
      cases huntil : e.lookup "dismiss_until" with
      | some ts =>
          simp only
          rw [Dict.lookup_erase, if_pos rfl]
      | none =>
          simp only
          exact huntil

/-- No key is left but columns, unless the two timestamps clash. -/
theorem translate_known_iff {e : Fields τ} (hkeys : KnownKeys e) :
    (forall entry, entry ∈ translate e -> isEnrichable entry.1 = true) <-> ¬ Clash e := by
  rw [← lookup_dismissUntil_translate]
  have hmem : forall {key}, key ∈ (translate e).map Prod.fst <->
      (translate e).lookup key ≠ none := by
    intro key
    rw [Ne, Dict.lookup_eq_none, not_not]
  constructor
  · intro hknown
    refine Dict.lookup_eq_none.mpr ?_
    intro hleft
    rcases List.mem_map.mp hleft with ⟨entry, hentry, hkey⟩
    have henrichable := hknown entry hentry
    rw [hkey] at henrichable
    exact absurd henrichable (by decide)
  · intro huntil entry hentry
    have hsome := hmem.mp (List.mem_map_of_mem hentry)
    refine decide_eq_true ?_
    rcases Classical.em (entry.1 ∈ ["dismissed", "dismiss_until", "status", "dismiss_mode",
      "dismissed_until"]) with hdismissal | hother
    · simp only [List.mem_cons, List.not_mem_nil, or_false] at hdismissal
      rcases hdismissal with heq | heq | heq | heq | heq
      · rw [heq, lookup_dismissed_translate] at hsome
        exact absurd rfl hsome
      · rw [heq, huntil] at hsome
        exact absurd rfl hsome
      · rw [heq]
        decide
      · rw [heq]
        decide
      · rw [heq]
        decide
    · rw [lookup_translate e hother, Ne, Dict.lookup_eq_none, not_not] at hsome
      rcases hkeys entry.1 hsome with hcolumn | hlegacy
      · exact hcolumn
      · simp only [legacyKeys, List.mem_cons, List.not_mem_nil, or_false] at hlegacy
        rcases hlegacy with heq | heq
        · exact absurd (by simp [heq]) hother
        · exact absurd (by simp [heq]) hother

/-!
## Permanent dismissals
-/

/-- A dismissal for good: by the flag without a time, or by the mode. -/
def Permanent (e : Fields τ) : Prop :=
  (exists dismissed, e.lookup "dismissed" = some dismissed ∧ dismissed.truthy = true ∧
      (dismissTimestamp e).1.truthy = false ∧
      (e.lookup "dismiss_mode").getD (.text "permanent") = .text "permanent") ∨
    (e.lookup "dismissed" = none ∧
      (forall ts, e.lookup "dismiss_until" = some ts -> ts.truthy = false) ∧
      e.lookup "dismiss_mode" = some (.text "permanent"))

/-- The result dismisses for good exactly when the request does. -/
theorem permanent_iff (e : Fields τ) :
    (translate e).lookup "dismiss_mode" = some (.text "permanent") <-> Permanent e := by
  have hnot : (Value.text "dismiss_until" : Value τ) ≠ .text "permanent" := by simp
  cases branch_translate e with
  | timed ts hts hcase hstatus hmode htimestamp =>
      rw [hmode]
      refine ⟨fun h => absurd (Option.some.inj h) hnot, fun h => ?_⟩
      rcases h with ⟨dismissed, hdismissed, _, hfalsy, _⟩ | ⟨hdismissed, huntil, _⟩
      · rcases hcase with ⟨_, _, _, heq⟩ | ⟨hnone, _⟩
        · rw [heq, hts] at hfalsy
          cases hfalsy
        · rw [hdismissed] at hnone
          cases hnone
      · rcases hcase with ⟨_, hsome, _⟩ | ⟨_, hgiven⟩
        · rw [hdismissed] at hsome
          cases hsome
        · have hfalsy := huntil ts hgiven
          rw [hts] at hfalsy
          cases hfalsy
  | untimed dismissed hdismissed htruthy hts hstatus hmode htimestamp =>
      rw [hmode]
      constructor
      · intro h
        exact .inl ⟨dismissed, hdismissed, htruthy, hts, Option.some.inj h⟩
      · intro h
        rcases h with ⟨_, _, _, _, hpermanent⟩ | ⟨hnone, _⟩
        · rw [hpermanent]
        · rw [hdismissed] at hnone
          cases hnone
  | undone dismissed hdismissed hfalsy hstatus hmode htimestamp =>
      rw [hmode]
      refine ⟨fun h => absurd (Option.some.inj h) (by simp), fun h => ?_⟩
      rcases h with ⟨dismissed', hsome, htruthy, _⟩ | ⟨hnone, _⟩
      · rw [hdismissed] at hsome
        cases hsome
        rw [hfalsy] at htruthy
        cases htruthy
      · rw [hdismissed] at hnone
        cases hnone
  | dropped ts hdismissed huntil hts hsame =>
      rw [hsame "dismiss_mode" (by decide)]
      constructor
      · intro h
        refine .inr ⟨hdismissed, ?_, h⟩
        intro ts' hgiven
        rw [huntil] at hgiven
        cases hgiven
        exact hts
      · intro h
        rcases h with ⟨_, hsome, _⟩ | ⟨_, _, hmode⟩
        · rw [hdismissed] at hsome
          cases hsome
        · exact hmode
  | typed mode hdismissed huntil hgiven hstatus hmode hended htimestamp =>
      rw [hmode]
      constructor
      · intro h
        refine .inr ⟨hdismissed, ?_, hgiven.trans h⟩
        intro ts hsome
        rw [huntil] at hsome
        cases hsome
      · intro h
        rcases h with ⟨_, hsome, _⟩ | ⟨_, _, hpermanent⟩
        · rw [hdismissed] at hsome
          cases hsome
        · exact hgiven.symm.trans hpermanent
  | unrelated hdismissed huntil hgiven hsame =>
      rw [hsame]
      constructor
      · intro h
        rw [hgiven] at h
        cases h
      · intro h
        rcases h with ⟨_, hsome, _⟩ | ⟨_, _, hpermanent⟩
        · rw [hdismissed] at hsome
          cases hsome
        · exact hpermanent

/-- A dismissal for good has the timestamp that is given, and no other. -/
theorem timestamp_of_permanent {e : Fields τ}
    (h : (translate e).lookup "dismiss_mode" = some (.text "permanent")) :
    (translate e).lookup "dismissed_until" = e.lookup "dismissed_until" := by
  cases branch_translate e with
  | timed ts hts hcase hstatus hmode htimestamp =>
      rw [hmode] at h
      exact absurd (Option.some.inj h) (by simp)
  | untimed dismissed hdismissed htruthy hts hstatus hmode htimestamp => exact htimestamp
  | undone dismissed hdismissed hfalsy hstatus hmode htimestamp =>
      rw [hmode] at h
      exact absurd (Option.some.inj h) (by simp)
  | dropped ts hdismissed huntil hts hsame => exact hsame _ (by decide)
  | typed mode hdismissed huntil hgiven hstatus hmode hended htimestamp =>
      refine htimestamp ?_
      rw [Option.some.inj (hmode.symm.trans h)]
      simp [Value.truthy]
  | unrelated hdismissed huntil hgiven hsame => rw [hsame]

/-!
## Writing
-/

/-- The enrichable attributes of a row. -/
def LastAlert.attributes (row : LastAlert τ) : Fields τ :=
  let text := fun value : Option String => value.elim Value.none Value.text
  [("status", text row.status), ("status_disposable", .bool row.statusDisposable),
    ("dismiss_mode", text row.dismissMode),
    ("dismissed_until", row.dismissedUntil.elim Value.none Value.time),
    ("assignee", text row.assignee), ("note", text row.note), ("deleted", .bool row.deleted),
    ("ticket_type", text row.ticketType), ("ticket_url", text row.ticketUrl),
    ("ticket_provider_id", text row.ticketProviderId)]

/-- `_apply_enrichments_to_last_alert` before the row is written: `setattr` takes any value. -/
def assignAttributes (force : Bool) : Fields τ -> Fields τ -> Fields τ
  | attributes, [] => attributes
  | attributes, (key, value) :: rest =>
      if key = "note" ∧ force = false ∧ value.isBlank = true then
        assignAttributes force attributes rest
      else assignAttributes force (Dict.set key value attributes) rest

/-- An attribute is what is given for it, and otherwise as it was. -/
theorem lookup_assignAttributes {key : String} (hnote : key ≠ "note") (force : Bool)
    {e : Fields τ} (he : Dict.Distinct e) (attributes : Fields τ) :
    (assignAttributes force attributes e).lookup key =
      (e.lookup key).or (attributes.lookup key) := by
  induction e generalizing attributes with
  | nil => rfl
  | cons entry rest ih =>
      rcases entry with ⟨other, value⟩
      rcases List.nodup_cons.mp he with ⟨hhead, hrest⟩
      rw [Dict.lookup_cons_eq]
      unfold assignAttributes
      split
      · rename_i hskipped
        rw [if_neg (fun heq => hnote (heq.symm.trans hskipped.1)), ih hrest]
      · rw [ih hrest]
        rcases Classical.em (other = key) with heq | hne
        · rw [if_pos heq, ← heq, Dict.lookup_set_self, Dict.lookup_eq_none.mpr hhead]
          rfl
        · rw [if_neg hne, Dict.lookup_set_ne hne]

section Storing

variable {st : Storage τ}

theorem set_other_timestamp {row : LastAlert τ} {key : String} {value : Value τ}
    (hkey : key ≠ "dismissed_until") :
    forall row', row.set st key value = some row' ->
      row'.dismissedUntil = row.dismissedUntil := by
  have hstored : forall {γ : Type} {stored : Option γ} {write : γ -> LastAlert τ},
      (forall v, (write v).dismissedUntil = row.dismissedUntil) ->
        forall row', stored.map write = some row' ->
          row'.dismissedUntil = row.dismissedUntil := by
    intro γ stored write hwrite row' hsome
    rcases Option.map_eq_some_iff.mp hsome with ⟨v, _, heq⟩
    rw [← heq]
    exact hwrite v
  have hcase : forall {c : Prop} [Decidable c] {written other : Option (LastAlert τ)},
      (c -> forall row', written = some row' -> row'.dismissedUntil = row.dismissedUntil) ->
        (forall row', other = some row' -> row'.dismissedUntil = row.dismissedUntil) ->
          forall row', (if c then written else other) = some row' ->
            row'.dismissedUntil = row.dismissedUntil := by
    intro c _ written other hwritten hother
    exact iteInduction
      (motive := fun r : Option (LastAlert τ) => forall row', r = some row' ->
        row'.dismissedUntil = row.dismissedUntil) hwritten fun _ => hother
  unfold LastAlert.set
  iterate 3 refine hcase (fun _ => hstored fun _ => rfl) ?_
  refine hcase (fun heq => absurd heq hkey) ?_
  iterate 6 refine hcase (fun _ => hstored fun _ => rfl) ?_
  intro row' hnone
  cases hnone

theorem set_timestamp {row row' : LastAlert τ} {value : Value τ}
    (h : row.set st "dismissed_until" value = some row') :
    row'.dismissedUntil = none <-> value = .none := by
  have hset : (st.nullableTime value).map (fun v => { row with dismissedUntil := v }) =
      some row' := h
  rcases Option.map_eq_some_iff.mp hset with ⟨stored, hstored, heq⟩
  rw [← heq]
  cases value with
  | none =>
      cases hstored
      exact ⟨fun _ => rfl, fun _ => rfl⟩
  | _ =>
      rcases Option.map_eq_some_iff.mp hstored with ⟨t, _, ht⟩
      rw [← ht]
      simp

theorem lookup_attributes (row : LastAlert τ) :
    row.attributes.lookup "dismissed_until" = some .none <-> row.dismissedUntil = none := by
  have hlookup : row.attributes.lookup "dismissed_until" =
      some (row.dismissedUntil.elim Value.none Value.time) := rfl
  rw [hlookup, Option.some.injEq]
  cases row.dismissedUntil with
  | none => exact ⟨fun _ => rfl, fun _ => rfl⟩
  | some t => simp

/-- What is stored of a write that succeeds is what was assigned. -/
theorem stored_timestamp {force : Bool} {row row' : LastAlert τ} {e : Fields τ}
    (he : Dict.Distinct e) (h : applyEnrichmentsToLastAlert st force row e = .ok row') :
    row'.dismissedUntil = none <->
      (assignAttributes force row.attributes e).lookup "dismissed_until" = some .none := by
  rw [lookup_assignAttributes (by decide) force he]
  have hother : forall (before after : LastAlert τ) other value, other ≠ "dismissed_until" ->
      before.set st other value = some after -> after.dismissedUntil = before.dismissedUntil :=
    fun before after other value hne hset => set_other_timestamp hne after hset
  rcases applyEnrichments_column (by decide) hother he h with
    ⟨habsent, hsame⟩ | ⟨value, before, after, hgiven, hset, hsame⟩
  · rw [habsent, hsame, Option.none_or, lookup_attributes]
  · rw [hgiven, hsame, Option.some_or, Option.some.injEq]
    exact set_timestamp hset

end Storing

/-!
## Requests
-/

/-- A request is taken, without its legacy keys, and a dismissal for good leaves no time on
any row that there can be. -/
def TakenWhole (st : Storage τ) (e : Fields τ) : Prop :=
  exists normalized, normalizeEnrichments e true = .ok normalized ∧
    (forall key, key ∈ legacyKeys -> normalized.lookup key = none) ∧
    (normalized.lookup "dismiss_mode" = some (.text "permanent") ->
      forall force row, Reachable (step st) none (some row) ->
        (assignAttributes force row.attributes normalized).lookup "dismissed_until" =
          some .none)

theorem normalizeEnrichments_strict {e normalized : Fields τ}
    (h : normalizeEnrichments e true = .ok normalized) :
    (forall entry, entry ∈ translate e -> isEnrichable entry.1 = true) ∧
      normalized = translate e := by
  have hknown : forall entry, entry ∈ translate e -> isEnrichable entry.1 = true := by
    intro entry hentry
    simp only [normalizeEnrichments] at h
    split at h
    · cases h
    · rename_i hnone
      rw [not_and, not_not] at hnone
      have hkept := List.filter_eq_nil_iff.mp (hnone trivial) _ (List.mem_map_of_mem hentry)
      rw [Bool.not_eq_true', Bool.not_eq_false] at hkept
      exact hkept
  refine ⟨hknown, ?_⟩
  rw [normalizeEnrichments_ok h]
  exact List.filter_eq_self.mpr hknown

/-- A row that was dismissed until a time. -/
theorem exists_timed_row {st : Storage τ} {t stored : τ} (h : st.time (.time t) = some stored) :
    exists row : LastAlert τ,
      Reachable (step st) none (some row) ∧ row.dismissedUntil = some stored := by
  let alert : Alert := { id := 0, timestamp := 0, hash := none, status := none }
  let request : EnrichmentDict τ :=
    { fields := [("dismissed_until", .time t)], distinct := by simp [Dict.Distinct] }
  have hnormalized : normalizeEnrichments request.fields true = .ok request.fields := rfl
  have hset : (newLastAlert alert).set st "dismissed_until" (.time t) =
      some { newLastAlert alert with dismissedUntil := some stored } := by
    have hstored : st.nullableTime (.time t) = some (some stored) := congrArg (Option.map some) h
    exact congrArg (Option.map fun v => { newLastAlert alert with dismissedUntil := v }) hstored
  have hrow : enrichRow st (some (newLastAlert alert)) request.fields false true =
      .ok (some { newLastAlert alert with dismissedUntil := some stored }) := by
    unfold enrichRow
    rw [hnormalized]
    show (applyEnrichmentsToLastAlert st false _ [("dismissed_until", .time t)] >>= _) = _
    simp only [applyEnrichmentsToLastAlert, hset]
    rfl
  refine ⟨{ newLastAlert alert with dismissedUntil := some stored },
    ⟨[.occurrence alert [], .enrich request true false true], ?_⟩, rfl⟩
  refine run_cons.mpr ⟨some (newLastAlert alert), rfl, ?_⟩
  refine run_cons.mpr ⟨_, ?_, rfl⟩
  show (normalizeEnrichments request.fields true >>=
    fun e => enrichRow st _ e false true).toOption = _
  rw [hnormalized]
  exact congrArg Except.toOption hrow

/-- A request is taken whole exactly when its timestamps do not clash and a dismissal for good
clears the time itself. -/
theorem takenWhole_iff {st : Storage τ} {t stored : τ} (hst : st.time (.time t) = some stored)
    (e : EnrichmentDict τ) (hkeys : KnownKeys e.fields) :
    TakenWhole st e.fields <->
      ¬ Clash e.fields ∧
        (Permanent e.fields -> e.fields.lookup "dismissed_until" = some .none) := by
  constructor
  · intro htaken
    rcases htaken with ⟨normalized, hok, _, hcleared⟩
    rcases normalizeEnrichments_strict hok with ⟨hknown, heq⟩
    refine ⟨(translate_known_iff hkeys).mp hknown, ?_⟩
    intro hpermanent
    have hmode := (permanent_iff e.fields).mpr hpermanent
    rcases exists_timed_row hst with ⟨row, hreach, hrow⟩
    rw [heq] at hcleared
    have hnone := hcleared hmode true row hreach
    rw [lookup_assignAttributes (by decide) true (distinct_translate e.distinct),
      timestamp_of_permanent hmode] at hnone
    cases hgiven : e.fields.lookup "dismissed_until" with
    | some value =>
        rw [hgiven, Option.some_or] at hnone
        exact hnone
    | none =>
        rw [hgiven, Option.none_or, lookup_attributes, hrow] at hnone
        cases hnone
  · intro hcondition
    rcases hcondition with ⟨hclash, hpermanent⟩
    have hknown := (translate_known_iff hkeys).mpr hclash
    refine ⟨translate e.fields, normalizeEnrichments_of_known hknown true, ?_, ?_⟩
    · intro key hkey
      refine Dict.lookup_eq_none.mpr ?_
      intro hmem
      rcases List.mem_map.mp hmem with ⟨entry, hentry, heq⟩
      have henrichable := hknown entry hentry
      rw [heq] at henrichable
      simp only [legacyKeys, List.mem_cons, List.not_mem_nil, or_false] at hkey
      rcases hkey with hlegacy | hlegacy
      · rw [hlegacy] at henrichable
        exact absurd henrichable (by decide)
      · rw [hlegacy] at henrichable
        exact absurd henrichable (by decide)
    · intro hmode force row _
      rw [lookup_assignAttributes (by decide) force (distinct_translate e.distinct),
        timestamp_of_permanent hmode, hpermanent ((permanent_iff e.fields).mp hmode)]
      rfl

theorem legacyDismissal_knownKeys : KnownKeys legacyDismissal.fields := by
  intro key hkey
  rw [List.mem_singleton.mp hkey]
  exact .inr List.mem_cons_self

theorem legacyDismissal_takenWhole_iff :
    TakenWhole textStorage legacyDismissal.fields <->
      ¬ Clash legacyDismissal.fields ∧
        (Permanent legacyDismissal.fields ->
          legacyDismissal.fields.lookup "dismissed_until" = some .none) :=
  @takenWhole_iff _ _ "2026-01-01T00:00:00Z" "2026-01-01T00:00:00Z" rfl legacyDismissal legacyDismissal_knownKeys

/-- The flag beside both timestamps. -/
def bothTimestamps : EnrichmentDict String where
  fields := [("dismissed", .bool true), ("dismissed_until", .text "2026-01-01T00:00:00Z"),
    ("dismiss_until", .text "2026-01-01T00:00:00Z")]
  distinct := by simp [Dict.Distinct]

/-- The legacy timestamp is reported as an unknown key. -/
theorem bothTimestamps_not_takenWhole :
    KnownKeys bothTimestamps.fields ∧
      normalizeEnrichments bothTimestamps.fields true =
        .error (.unknownEnrichmentKeys ["dismiss_until"]) ∧
      ¬ TakenWhole textStorage bothTimestamps.fields := by
  have herror : normalizeEnrichments bothTimestamps.fields true =
      .error (.unknownEnrichmentKeys ["dismiss_until"]) := by
    show Except.error (Failure.unknownEnrichmentKeys (["dismiss_until"].mergeSort _)) = _
    rw [List.mergeSort_singleton]
  refine ⟨?_, herror, ?_⟩
  · intro key hkey
    have hgiven : key ∈ ["dismissed", "dismissed_until", "dismiss_until"] := hkey
    simp only [List.mem_cons, List.not_mem_nil, or_false] at hgiven
    rcases hgiven with heq | heq | heq
    · exact .inr (by simp [heq, legacyKeys])
    · exact .inl (by simp [heq, enrichmentColumns])
    · exact .inr (by simp [heq, legacyKeys])
  · intro htaken
    rcases htaken with ⟨normalized, hok, _⟩
    rw [herror] at hok
    cases hok

end Enrichments
end KeepGateway
