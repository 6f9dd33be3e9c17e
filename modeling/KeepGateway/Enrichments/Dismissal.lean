import KeepGateway.Enrichments.LastAlert
import KeepGateway.Lib.Run

/-!
# Dismissals that are to be kept

A dismissal survives new occurrences exactly when the enrichment that makes it
leaves the row's `status_disposable` flag off.  The flag is only reset for the
typed keys, before the legacy keys are translated to them.
-/

namespace KeepGateway
namespace Enrichments

open Run

variable {τ : Type}

inductive Act (τ : Type) where
  | enrich (e : EnrichmentDict τ) (disposeOnNewAlert force strict : Bool)
  | occurrence (alert : Alert) (tracking : Fields τ)

/-- A call that succeeds, on the row of one fingerprint. -/
def step (st : Storage τ) (row : Option (LastAlert τ)) : Act τ -> Option (Option (LastAlert τ))
  | .enrich e disposeOnNewAlert force strict =>
      (enrichEntity st row e.fields disposeOnNewAlert force strict).toOption
  | .occurrence alert tracking => some (some (setLastAlert row alert tracking))

/-- An occurrence whose provider status is not resolved. -/
def Act.Refires : Act τ -> Prop
  | enrich _ _ _ _ => False
  | occurrence alert _ => alert.status ≠ some "resolved"

def SameDismissal (a b : LastAlert τ) : Prop :=
  a.status = b.status ∧ a.dismissMode = b.dismissMode ∧ a.dismissedUntil = b.dismissedUntil

/-- After any number of further occurrences that are not resolved, the row still has the
status and the dismissal it has now. -/
def Survives (st : Storage τ) (row : LastAlert τ) : Prop :=
  forall acts after, (forall a, a ∈ acts -> Act.Refires a) ->
    run (step st) (some row) acts = some after ->
      exists row', after = some row' ∧ SameDismissal row' row

/-!
## Occurrences
-/

theorem writeTracking_eq (row : LastAlert τ) (tracking : Fields τ) :
    exists fields, writeTracking row tracking = { row with tracking := fields } := by
  unfold writeTracking
  induction tracking generalizing row with
  | nil => exact ⟨row.tracking, rfl⟩
  | cons entry rest ih =>
      rw [List.foldl_cons]
      split
      · rcases ih { row with tracking := Dict.set entry.1 entry.2 row.tracking } with
          ⟨fields, heq⟩
        exact ⟨fields, heq⟩
      · exact ih row

theorem applyDismissLifecycle_keeps {row : LastAlert τ} (hflag : row.statusDisposable = false)
    {alertStatus : Option String} (hstatus : alertStatus ≠ some "resolved") :
    applyDismissLifecycle row alertStatus = row := by
  simp only [applyDismissLifecycle, hstatus, if_false, hflag]
  rfl

theorem applyDismissLifecycle_clears {row : LastAlert τ} (hflag : row.statusDisposable = true)
    (alertStatus : Option String) : (applyDismissLifecycle row alertStatus).dismissMode = none := by
  simp only [applyDismissLifecycle, hflag, ite_self, if_true]

/-- A newer occurrence is a lifecycle step on the row as it was dismissed. -/
theorem setLastAlert_newer {row : LastAlert τ} {alert : Alert}
    (hnewer : row.timestamp < alert.timestamp) (tracking : Fields τ) :
    exists row', row'.statusDisposable = row.statusDisposable ∧ SameDismissal row' row ∧
      setLastAlert (some row) alert tracking = applyDismissLifecycle row' alert.status := by
  rcases writeTracking_eq
      { row with
        timestamp := alert.timestamp
        alertId := alert.id
        alertHash := alert.hash } tracking with ⟨fields, heq⟩
  refine ⟨_, ?_, ?_, if_pos hnewer⟩
  · rw [heq]
  · rw [heq]
    exact ⟨rfl, rfl, rfl⟩

/-- A row whose flag is off keeps its dismissal and its flag. -/
theorem setLastAlert_keeps {row : LastAlert τ} (hflag : row.statusDisposable = false)
    {alert : Alert} (hstatus : alert.status ≠ some "resolved") (tracking : Fields τ) :
    (setLastAlert (some row) alert tracking).statusDisposable = false ∧
      SameDismissal (setLastAlert (some row) alert tracking) row := by
  by_cases hnewer : row.timestamp < alert.timestamp
  · rcases setLastAlert_newer hnewer tracking with ⟨row', hflag', hsame, heq⟩
    rw [hflag] at hflag'
    rw [heq, applyDismissLifecycle_keeps hflag' hstatus]
    exact ⟨hflag', hsame⟩
  · have hsame : setLastAlert (some row) alert tracking = row := if_neg hnewer
    rw [hsame]
    exact ⟨hflag, rfl, rfl, rfl⟩

/-- A newer occurrence ends the dismissal of a row whose flag is on. -/
theorem setLastAlert_clears {row : LastAlert τ} (hflag : row.statusDisposable = true)
    {alert : Alert} (hnewer : row.timestamp < alert.timestamp) (tracking : Fields τ) :
    (setLastAlert (some row) alert tracking).dismissMode = none := by
  rcases setLastAlert_newer hnewer tracking with ⟨row', hflag', _, heq⟩
  rw [hflag] at hflag'
  rw [heq]
  exact applyDismissLifecycle_clears hflag' alert.status

theorem run_keeps {st : Storage τ} {row : LastAlert τ} {acts : List (Act τ)}
    {after : Option (LastAlert τ)} (hflag : row.statusDisposable = false)
    (hacts : forall a, a ∈ acts -> Act.Refires a)
    (hrun : run (step st) (some row) acts = some after) :
    exists row', after = some row' ∧ SameDismissal row' row := by
  induction acts generalizing row with
  | nil =>
      cases hrun
      exact ⟨row, rfl, rfl, rfl, rfl⟩
  | cons a rest ih =>
      rcases run_cons.mp hrun with ⟨next, hstep, hrest⟩
      have hrefires := hacts a List.mem_cons_self
      cases a with
      | enrich e disposeOnNewAlert force strict => exact absurd hrefires id
      | occurrence alert tracking =>
          cases hstep
          rcases setLastAlert_keeps hflag hrefires tracking with ⟨hflag', hsame⟩
          rcases ih hflag' (fun b hb => hacts b (List.mem_cons_of_mem _ hb)) hrest with
            ⟨row', hafter, hstatus, hmode, huntil⟩
          refine ⟨row', hafter, ?_, ?_, ?_⟩
          · exact hstatus.trans hsame.1
          · exact hmode.trans hsame.2.1
          · exact huntil.trans hsame.2.2

/-- A firing occurrence that is newer than the row. -/
def refire (row : LastAlert τ) : Alert where
  id := row.alertId
  timestamp := row.timestamp + 1
  hash := none
  status := some "firing"

theorem refire_status (row : LastAlert τ) : (refire row).status ≠ some "resolved" := by
  simp [refire]

/-- A dismissed row survives if and only if its flag is off. -/
theorem survives_iff (st : Storage τ) {row : LastAlert τ} (hmode : row.dismissMode ≠ none) :
    Survives st row <-> row.statusDisposable = false := by
  constructor
  · intro hsurvives
    cases hflag : row.statusDisposable with
    | false => rfl
    | true =>
        have hrefires : forall a : Act τ, a ∈ [Act.occurrence (refire row) []] -> a.Refires := by
          intro a ha
          rw [List.mem_singleton.mp ha]
          exact refire_status row
        rcases hsurvives _ _ hrefires rfl with ⟨row', hafter, hsame⟩
        cases hafter
        have hnewer : row.timestamp < (refire row).timestamp := Nat.lt_succ_self row.timestamp
        have hcleared := setLastAlert_clears hflag hnewer []
        rw [← hsame.2.1] at hmode
        exact absurd hcleared hmode
  · intro hflag acts after hacts hrun
    exact run_keeps hflag hacts hrun

/-!
## Normalizing
-/

/-- The dictionary without the legacy keys that are taken. -/
def withoutTaken (e : Fields τ) : Fields τ :=
  match e.lookup "dismissed", e.lookup "dismiss_until" with
  | some _, _ => (dismissTimestamp (Dict.erase "dismissed" e)).2
  | none, some _ => Dict.erase "dismiss_until" e
  | none, none => e

/-- The translation sets no other keys than those of a dismissal. -/
theorem lookup_translate_unset (e : Fields τ) {key : String} (hstatus : "status" ≠ key)
    (hmode : "dismiss_mode" ≠ key) (htimestamp : "dismissed_until" ≠ key) :
    (translate e).lookup key = (withoutTaken e).lookup key := by
  unfold translate withoutTaken
  cases e.lookup "dismissed" with
  | some dismissed =>
      simp only
      split
      · split
        · rw [Dict.lookup_set_ne htimestamp, Dict.lookup_set_ne hmode,
            Dict.lookup_setDefault_ne hstatus]
        · rw [Dict.lookup_setDefault_ne hmode, Dict.lookup_setDefault_ne hstatus]
      · rw [Dict.lookup_set_ne htimestamp, Dict.lookup_set_ne hmode,
          Dict.lookup_setDefault_ne hstatus]
  | none =>
      simp only
      cases e.lookup "dismiss_until" with
      | some ts =>
          simp only
          split
          · rw [Dict.lookup_set_ne htimestamp, Dict.lookup_set_ne hmode,
              Dict.lookup_setDefault_ne hstatus]
          · rfl
      | none =>
          simp only
          split
          · split
            · rw [Dict.lookup_setDefault_ne hstatus]
            · rw [Dict.lookup_setDefault_ne htimestamp, Dict.lookup_setDefault_ne hstatus]
          · rfl

/-- Only the two keys of a flag are taken. -/
theorem lookup_withoutTaken (e : Fields τ) {key : String} (hflag : "dismissed" ≠ key)
    (hlegacy : "dismiss_until" ≠ key) : (withoutTaken e).lookup key = e.lookup key := by
  have hflagged := Dict.lookup_erase_ne hflag e
  unfold withoutTaken
  split
  · unfold dismissTimestamp
    split
    · exact (Dict.lookup_erase_ne hlegacy _).trans hflagged
    · exact hflagged
  · exact Dict.lookup_erase_ne hlegacy e
  · rfl

/-- Translation leaves the keys that have nothing to do with a dismissal. -/
theorem lookup_translate (e : Fields τ) {key : String}
    (hkey : key ∉ ["dismissed", "dismiss_until", "status", "dismiss_mode", "dismissed_until"]) :
    (translate e).lookup key = e.lookup key := by
  simp only [List.mem_cons, not_or, List.not_mem_nil, not_false_eq_true, and_true] at hkey
  rcases hkey with ⟨hflag, hlegacy, hstatus, hmode, htimestamp⟩
  rw [lookup_translate_unset e (Ne.symm hstatus) (Ne.symm hmode) (Ne.symm htimestamp),
    lookup_withoutTaken e (Ne.symm hflag) (Ne.symm hlegacy)]

theorem distinct_translate {e : Fields τ} (he : Dict.Distinct e) :
    Dict.Distinct (translate e) := by
  have htimestamp : forall d : Fields τ, Dict.Distinct d ->
      Dict.Distinct (dismissTimestamp d).2 := by
    intro d hd
    unfold dismissTimestamp
    split
    · exact hd.erase _
    · exact hd
  unfold translate
  split
  · rename_i dismissed _
    have hrest := htimestamp _ (he.erase "dismissed")
    simp only
    cases dismissed.truthy with
    | true =>
        cases (dismissTimestamp (Dict.erase "dismissed" e)).1.truthy with
        | true => exact ((hrest.setDefault _ _).set _ _).set _ _
        | false => exact (hrest.setDefault _ _).setDefault _ _
    | false => exact ((hrest.setDefault _ _).set _ _).set _ _
  · split
    · rename_i ts _
      simp only
      cases ts.truthy with
      | true => exact (((he.erase _).setDefault _ _).set _ _).set _ _
      | false => exact he.erase _
    · split
      · rename_i mode _
        cases mode.truthy with
        | true => exact he.setDefault _ _
        | false => exact (he.setDefault _ _).setDefault _ _
      · exact he

theorem normalizeEnrichments_ok {e normalized : Fields τ} {strict : Bool}
    (h : normalizeEnrichments e strict = .ok normalized) :
    normalized = (translate e).filter fun entry => isEnrichable entry.1 := by
  simp only [normalizeEnrichments] at h
  split at h
  · cases h
  · exact (Except.ok.inj h).symm

theorem lookup_normalized {e normalized : Fields τ} {strict : Bool}
    (h : normalizeEnrichments e strict = .ok normalized) (key : String) :
    normalized.lookup key = if isEnrichable key then (translate e).lookup key else none := by
  rw [normalizeEnrichments_ok h]
  exact Dict.lookup_filter_key isEnrichable key _

theorem distinct_normalized {e normalized : Fields τ} {strict : Bool} (he : Dict.Distinct e)
    (h : normalizeEnrichments e strict = .ok normalized) : Dict.Distinct normalized := by
  rw [normalizeEnrichments_ok h]
  exact List.Nodup.sublist (List.filter_sublist.map Prod.fst) (distinct_translate he)

theorem distinct_applyDisposeOnNewAlert {e : Fields τ} (he : Dict.Distinct e)
    (disposeOnNewAlert : Bool) : Dict.Distinct (applyDisposeOnNewAlert e disposeOnNewAlert) := by
  unfold applyDisposeOnNewAlert
  split
  · exact he.set _ _
  · exact he

/-- Normalizing a second time keeps the dismissal mode. -/
theorem lookup_dismissMode_again {e normalized again : Fields τ} {strict : Bool}
    (h : normalizeEnrichments e strict = .ok normalized)
    (hagain : normalizeEnrichments normalized strict = .ok again) :
    again.lookup "dismiss_mode" = normalized.lookup "dismiss_mode" := by
  have hdismissed : normalized.lookup "dismissed" = none := by
    rw [lookup_normalized h]
    exact if_neg (by decide)
  have huntil : normalized.lookup "dismiss_until" = none := by
    rw [lookup_normalized h]
    exact if_neg (by decide)
  rw [lookup_normalized hagain, if_pos (by decide)]
  unfold translate
  rw [hdismissed, huntil]
  cases hmode : normalized.lookup "dismiss_mode" with
  | none => exact hmode
  | some mode =>
      simp only
      split
      · simp [Dict.lookup_setDefault, hmode]
      · simp [Dict.lookup_setDefault, hmode]

/-!
## Writing
-/

/-- What a write leaves in a column that `key` names and no other key does. -/
theorem applyEnrichments_column {γ : Type} {st : Storage τ} {column : LastAlert τ -> γ}
    {key : String} (hnote : key ≠ "note")
    (hother : forall (row row' : LastAlert τ) other value, other ≠ key ->
      row.set st other value = some row' -> column row' = column row)
    {force : Bool} {row row' : LastAlert τ} {e : Fields τ} (he : Dict.Distinct e)
    (h : applyEnrichmentsToLastAlert st force row e = .ok row') :
    (e.lookup key = none ∧ column row' = column row) ∨
      exists value before after, e.lookup key = some value ∧
        LastAlert.set st before key value = some after ∧ column row' = column after := by
  induction e generalizing row with
  | nil =>
      cases h
      exact Or.inl ⟨rfl, rfl⟩
  | cons entry rest ih =>
      rcases entry with ⟨other, value⟩
      rcases List.nodup_cons.mp he with ⟨hhead, hrest⟩
      rw [Dict.lookup_cons_eq]
      unfold applyEnrichmentsToLastAlert at h
      split at h
      · rename_i hskipped
        have hne : other ≠ key := fun heq => hnote (heq.symm.trans hskipped.1)
        rw [if_neg hne]
        exact ih hrest h
      · cases hset : row.set st other value with
        | none =>
            rw [hset] at h
            cases h
        | some next =>
            rw [hset] at h
            by_cases heq : other = key
            · subst heq
              rw [if_pos rfl]
              right
              refine ⟨value, row, next, rfl, hset, ?_⟩
              rcases ih hrest h with ⟨_, hsame⟩ | ⟨value', _, _, hlookup, _, _⟩
              · exact hsame
              · have habsent := Dict.lookup_eq_none.mpr hhead
                rw [habsent] at hlookup
                cases hlookup
            · rw [if_neg heq]
              have hsame := hother row next other value heq hset
              rcases ih hrest h with ⟨habsent, hsame'⟩ | hwritten
              · exact Or.inl ⟨habsent, hsame'.trans hsame⟩
              · exact Or.inr hwritten

/-- A row that differs from another in the column that the key names. -/
def FramedBy (key : String) (row row' : LastAlert τ) : Prop :=
  (key = "status_disposable" ∨ row'.statusDisposable = row.statusDisposable) ∧
    (key = "dismiss_mode" ∨ row'.dismissMode = row.dismissMode)

theorem framedBy_map {key : String} {row : LastAlert τ} {γ : Type} {stored : Option γ}
    {write : γ -> LastAlert τ} (hwrite : forall v, FramedBy key row (write v)) :
    forall row', stored.map write = some row' -> FramedBy key row row' := by
  intro row' h
  rcases Option.map_eq_some_iff.mp h with ⟨v, _, heq⟩
  rw [← heq]
  exact hwrite v

/-- Setting a key changes the column it names. -/
theorem set_frame {st : Storage τ} {row row' : LastAlert τ} {key : String} {value : Value τ}
    (h : row.set st key value = some row') :
    (key = "status_disposable" ∨ row'.statusDisposable = row.statusDisposable) ∧
      (key = "dismiss_mode" ∨ row'.dismissMode = row.dismissMode) := by
  have hcase : forall {c : Prop} [Decidable c] {written other : Option (LastAlert τ)},
      (c -> forall row', written = some row' -> FramedBy key row row') ->
        (forall row', other = some row' -> FramedBy key row row') ->
          forall row', (if c then written else other) = some row' -> FramedBy key row row' := by
    intro c _ written other hwritten hother
    exact iteInduction (motive := fun r => forall row', r = some row' -> FramedBy key row row')
      hwritten fun _ => hother
  have hset : forall row', row.set st key value = some row' -> FramedBy key row row' := by
    unfold LastAlert.set
    refine hcase (fun _ => framedBy_map fun _ => ⟨.inr rfl, .inr rfl⟩) ?_
    refine hcase (fun hkey => framedBy_map fun _ => ⟨.inl hkey, .inr rfl⟩) ?_
    refine hcase (fun hkey => framedBy_map fun _ => ⟨.inr rfl, .inl hkey⟩) ?_
    iterate 7 refine hcase (fun _ => framedBy_map fun _ => ⟨.inr rfl, .inr rfl⟩) ?_
    intro row' hnone
    cases hnone
  exact hset row' h

theorem set_flag {st : Storage τ} {row row' : LastAlert τ} {value : Value τ}
    (h : row.set st "status_disposable" value = some row') :
    row'.statusDisposable = value.truthy := by
  rcases Option.map_eq_some_iff.mp h with ⟨flag, hflag, heq⟩
  subst heq
  cases value with
  | none => cases hflag
  | _ => exact st.flag_truthy _ flag hflag

theorem set_mode {st : Storage τ} {row row' : LastAlert τ} {value : Value τ}
    (htruthy : value.truthy = true) (h : row.set st "dismiss_mode" value = some row') :
    row'.dismissMode ≠ none := by
  rcases Option.map_eq_some_iff.mp h with ⟨mode, hmode, heq⟩
  subst heq
  cases value with
  | none => cases htruthy
  | _ =>
      rcases Option.map_eq_some_iff.mp hmode with ⟨text, _, heq⟩
      subst heq
      exact Option.some_ne_none text

/-!
## Dismissing
-/

/-- The enrichment resets the flag of the row, or leaves it off. -/
def LeavesFlagOff (row : LastAlert τ) (e : Fields τ) : Prop :=
  (e.lookup "status").isSome = true ∨ (e.lookup "dismiss_mode").isSome = true ∨
    match e.lookup "status_disposable" with
    | some value => value.truthy = false
    | none => row.statusDisposable = false

theorem lookup_flag_normalized {e normalized again : Fields τ} {strict : Bool}
    (hnormalized : normalizedForm e false strict = .ok normalized)
    (hagain : normalizeEnrichments normalized strict = .ok again) :
    again.lookup "status_disposable" =
      if (e.lookup "status").isSome || (e.lookup "dismiss_mode").isSome then some (.bool false)
      else e.lookup "status_disposable" := by
  rw [lookup_normalized hagain, if_pos (by decide), lookup_translate _ (by decide),
    lookup_normalized hnormalized, if_pos (by decide), lookup_translate _ (by decide)]
  unfold applyDisposeOnNewAlert
  split
  · exact Dict.lookup_set_self _ _ _
  · rfl

/-- The row after an enrichment that dismisses it and is to be kept. -/
theorem enrichEntity_dismisses {st : Storage τ} {row row' : LastAlert τ} (e : EnrichmentDict τ)
    {force strict : Bool} {normalized : Fields τ} {mode : Value τ}
    (hnormalized : normalizedForm e.fields false strict = .ok normalized)
    (hmode : normalized.lookup "dismiss_mode" = some mode) (htruthy : mode.truthy = true)
    (h : enrichEntity st (some row) e.fields false force strict = .ok (some row')) :
    row'.dismissMode ≠ none ∧
      (row'.statusDisposable = false <-> LeavesFlagOff row e.fields) := by
  unfold enrichEntity at h
  rw [hnormalized] at h
  have hrow : enrichRow st (some row) normalized force strict = .ok (some row') := h
  rcases bind_eq_ok.mp hrow with ⟨again, hagain, h⟩
  rcases bind_eq_ok.mp h with ⟨written, hwritten, h⟩
  cases h
  have hdistinct : Dict.Distinct again :=
    distinct_normalized
      (distinct_normalized (distinct_applyDisposeOnNewAlert e.distinct false) hnormalized) hagain
  constructor
  · have hother : forall (row row' : LastAlert τ) other value, other ≠ "dismiss_mode" ->
        row.set st other value = some row' -> row'.dismissMode = row.dismissMode := by
      intro before after other value hne hset
      rcases (set_frame hset).2 with heq | hsame
      · exact absurd heq hne
      · exact hsame
    rcases applyEnrichments_column (by decide) hother hdistinct hwritten with
      ⟨habsent, _⟩ | ⟨value, before, after, hlookup, hset, hcolumn⟩
    · rw [lookup_dismissMode_again hnormalized hagain, hmode] at habsent
      cases habsent
    · rw [lookup_dismissMode_again hnormalized hagain, hmode] at hlookup
      cases hlookup
      rw [hcolumn]
      exact set_mode htruthy hset
  · have hother : forall (row row' : LastAlert τ) other value, other ≠ "status_disposable" ->
        row.set st other value = some row' ->
          row'.statusDisposable = row.statusDisposable := by
      intro before after other value hne hset
      rcases (set_frame hset).1 with heq | hsame
      · exact absurd heq hne
      · exact hsame
    have hlookup := lookup_flag_normalized hnormalized hagain
    unfold LeavesFlagOff
    rcases applyEnrichments_column (by decide) hother hdistinct hwritten with
      ⟨habsent, hsame⟩ | ⟨value, before, after, hpresent, hset, hcolumn⟩
    · rw [hlookup] at habsent
      split at habsent
      · cases habsent
      · rename_i hkeys
        rw [hsame, habsent]
        simp_all
    · rw [hlookup] at hpresent
      rw [hcolumn, set_flag hset]
      split at hpresent
      · rename_i hkeys
        cases hpresent
        simp_all [Value.truthy]
        tauto
      · rename_i hkeys
        rw [hpresent]
        simp_all

/-- Whatever came before, an enrichment that dismisses an alert and is to be kept on new
alerts survives them if and only if it leaves the flag off. -/
theorem dismissal_survives_iff (st : Storage τ) (row row' : LastAlert τ) (e : EnrichmentDict τ)
    (force strict : Bool) (normalized : Fields τ) (mode : Value τ)
    (hnormalized : normalizedForm e.fields false strict = .ok normalized)
    (hmode : normalized.lookup "dismiss_mode" = some mode) (htruthy : mode.truthy = true)
    (h : step st (some row) (.enrich e false force strict) = some (some row')) :
    Survives st row' <-> LeavesFlagOff row e.fields := by
  have hok : enrichEntity st (some row) e.fields false force strict = .ok (some row') := by
    cases hresult : enrichEntity st (some row) e.fields false force strict with
    | error failure =>
        simp [step, hresult, Except.toOption] at h
    | ok result =>
        simp only [step, hresult, Except.toOption, Option.some.injEq] at h
        rw [h]
  rcases enrichEntity_dismisses e hnormalized hmode htruthy hok with ⟨hdismissed, hflag⟩
  rw [survives_iff st hdismissed]
  exact hflag

/-- Timestamps as the text they are written in. -/
def textStorage : Storage String where
  text
    | .text s => some s
    | _ => none
  time
    | .text s => some s
    | .time t => some t
    | _ => none
  flag
    | .bool b => some b
    | _ => none
  flag_truthy := by
    intro v b h
    cases v with
    | bool flag => exact (Option.some.inj h).symm
    | _ => cases h

def sampleAlert (timestamp : Nat) (status : String) : Alert where
  id := timestamp
  timestamp := timestamp
  hash := none
  status := some status

/-- The row after an alert was resolved. -/
def resolvedRow : LastAlert String :=
  { newLastAlert (sampleAlert 1 "firing") with
    timestamp := 2
    alertId := 2
    status := some "resolved"
    statusDisposable := true }

def dismissedRow : LastAlert String :=
  { resolvedRow with status := some "suppressed", dismissMode := some "permanent" }

def typedDismissal : EnrichmentDict String where
  fields := [("dismiss_mode", .text "permanent")]
  distinct := by simp [Dict.Distinct]

def legacyDismissal : EnrichmentDict String where
  fields := [("dismissed", .bool true)]
  distinct := by simp [Dict.Distinct]

theorem typedDismissal_survives_iff :
    Survives textStorage { dismissedRow with statusDisposable := false } <->
      LeavesFlagOff resolvedRow typedDismissal.fields :=
  dismissal_survives_iff textStorage resolvedRow { dismissedRow with statusDisposable := false }
    typedDismissal false true
    [("dismiss_mode", .text "permanent"), ("status_disposable", .bool false),
      ("status", .text "suppressed")]
    (.text "permanent") rfl rfl rfl rfl

/-- A resolved occurrence sets the flag, the legacy key does not reset it, and the next
firing occurrence ends the dismissal. -/
theorem legacy_dismissal_lost :
    ¬ forall (st : Storage String) (row row' : LastAlert String) (e : EnrichmentDict String)
        (force strict : Bool) (normalized : Fields String) (mode : Value String),
      Reachable (step st) none (some row) -> normalizedForm e.fields false strict = .ok normalized ->
        normalized.lookup "dismiss_mode" = some mode -> mode.truthy = true ->
          step st (some row) (.enrich e false force strict) = some (some row') ->
            Survives st row' := by
  intro h
  have hreach : Reachable (step textStorage) none (some resolvedRow) :=
    ⟨[.occurrence (sampleAlert 1 "firing") [], .occurrence (sampleAlert 2 "resolved") []], rfl⟩
  have hsurvives := h textStorage resolvedRow dismissedRow legacyDismissal false true
    [("status", .text "suppressed"), ("dismiss_mode", .text "permanent")] (.text "permanent")
    hreach rfl rfl rfl rfl
  have hflag := (survives_iff textStorage (by decide)).mp hsurvives
  cases hflag

end Enrichments
end KeepGateway
