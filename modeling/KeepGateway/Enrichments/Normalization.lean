import KeepGateway.Enrichments.Dismissal

/-!
# Normalizing twice

`normalize_enrichments` is called in the service layer and again in the database layer.
-/

namespace KeepGateway
namespace Enrichments

variable {τ : Type}

/-!
## The branches
-/

/-- What the translation leaves of the three keys of a dismissal, by its branches. -/
inductive Branch (e r : Fields τ) : Prop where
  /-- Dismissed until a time. -/
  | timed (ts : Value τ) (hts : ts.truthy = true)
      (hcase : (exists dismissed, e.lookup "dismissed" = some dismissed ∧
          dismissed.truthy = true ∧ (dismissTimestamp e).1 = ts) ∨
        (e.lookup "dismissed" = none ∧ e.lookup "dismiss_until" = some ts))
      (hstatus : (r.lookup "status").isSome = true)
      (hmode : r.lookup "dismiss_mode" = some (.text "dismiss_until"))
      (htimestamp : r.lookup "dismissed_until" = some ts)
  /-- Dismissed without a time. -/
  | untimed (dismissed : Value τ) (hdismissed : e.lookup "dismissed" = some dismissed)
      (htruthy : dismissed.truthy = true) (hts : (dismissTimestamp e).1.truthy = false)
      (hstatus : r.lookup "status" = some ((e.lookup "status").getD (.text "suppressed")))
      (hmode : r.lookup "dismiss_mode" =
        some ((e.lookup "dismiss_mode").getD (.text "permanent")))
      (htimestamp : r.lookup "dismissed_until" = e.lookup "dismissed_until")
  /-- No longer dismissed. -/
  | undone (dismissed : Value τ) (hdismissed : e.lookup "dismissed" = some dismissed)
      (hfalsy : dismissed.truthy = false) (hstatus : (r.lookup "status").isSome = true)
      (hmode : r.lookup "dismiss_mode" = some .none)
      (htimestamp : r.lookup "dismissed_until" = some .none)
  /-- A blank legacy timestamp is dropped, and nothing else is done. -/
  | dropped (ts : Value τ) (hdismissed : e.lookup "dismissed" = none)
      (huntil : e.lookup "dismiss_until" = some ts) (hts : ts.truthy = false)
      (hsame : forall key, key ≠ "dismiss_until" -> r.lookup key = e.lookup key)
  /-- The mode is given. -/
  | typed (mode : Value τ) (hdismissed : e.lookup "dismissed" = none)
      (huntil : e.lookup "dismiss_until" = none) (hgiven : e.lookup "dismiss_mode" = some mode)
      (hstatus : r.lookup "status" = some ((e.lookup "status").getD
        (if mode.truthy then .text "suppressed" else .none)))
      (hmode : r.lookup "dismiss_mode" = some mode)
      (hended : mode.truthy = false -> (r.lookup "dismissed_until").isSome = true)
      (htimestamp : mode.truthy = true ->
        r.lookup "dismissed_until" = e.lookup "dismissed_until")
  | unrelated (hdismissed : e.lookup "dismissed" = none)
      (huntil : e.lookup "dismiss_until" = none) (hgiven : e.lookup "dismiss_mode" = none)
      (hsame : r = e)

theorem isSome_setDefault (key : String) (value : Value τ) (e : Fields τ) :
    ((Dict.setDefault key value e).lookup key).isSome = true := by
  rw [Dict.lookup_setDefault, if_pos rfl]
  rfl

/-- The timestamp is the same without the flag, and taking it leaves the other keys. -/
theorem dismissTimestamp_erase (e : Fields τ) :
    (dismissTimestamp (Dict.erase "dismissed" e)).1 = (dismissTimestamp e).1 ∧
      forall key, key ≠ "dismissed" -> key ≠ "dismiss_until" ->
        (dismissTimestamp (Dict.erase "dismissed" e)).2.lookup key = e.lookup key := by
  have hlookup : forall {key}, key ≠ "dismissed" ->
      (Dict.erase "dismissed" e).lookup key = e.lookup key :=
    fun h => Dict.lookup_erase_ne (Ne.symm h) e
  unfold dismissTimestamp
  rw [@hlookup "dismissed_until" (by decide), @hlookup "dismiss_until" (by decide)]
  constructor
  · split
    · rfl
    · rfl
  · intro key hdismissed huntil
    split
    · exact (Dict.lookup_erase_ne (Ne.symm huntil) _).trans (hlookup hdismissed)
    · exact hlookup hdismissed

/-- A request that has the flag. -/
theorem branch_of_flag {e : Fields τ} {dismissed : Value τ}
    (hdismissed : e.lookup "dismissed" = some dismissed) : Branch e (translate e) := by
  unfold translate
  rw [hdismissed]
  rcases dismissTimestamp_erase e with ⟨hsame, hrest⟩
  generalize htaken : dismissTimestamp (Dict.erase "dismissed" e) = taken at hsame hrest
  rcases taken with ⟨ts, rest⟩
  simp only at hsame hrest
  have hmode := hrest "dismiss_mode" (by decide) (by decide)
  have htimestamp := hrest "dismissed_until" (by decide) (by decide)
  simp only
  cases htruthy : dismissed.truthy with
  | true =>
      rw [if_pos rfl]
      cases hts : ts.truthy with
      | true =>
          rw [if_pos rfl]
          refine .timed ts hts (.inl ⟨dismissed, hdismissed, htruthy, hsame.symm⟩) ?_ ?_ ?_
          · rw [Dict.lookup_set_ne (by decide), Dict.lookup_set_ne (by decide)]
            exact isSome_setDefault _ _ _
          · rw [Dict.lookup_set_ne (by decide), Dict.lookup_set_self]
          · exact Dict.lookup_set_self _ _ _
      | false =>
          rw [if_neg Bool.false_ne_true]
          refine .untimed dismissed hdismissed htruthy ?_ ?_ ?_ ?_
          · rw [← hsame]
            exact hts
          · rw [Dict.lookup_setDefault_ne (by decide), Dict.lookup_setDefault, if_pos rfl,
              hrest "status" (by decide) (by decide)]
          · rw [Dict.lookup_setDefault, if_pos rfl, Dict.lookup_setDefault_ne (by decide),
              hmode]
          · rw [Dict.lookup_setDefault_ne (by decide), Dict.lookup_setDefault_ne (by decide),
              htimestamp]
  | false =>
      rw [if_neg Bool.false_ne_true]
      refine .undone dismissed hdismissed htruthy ?_ ?_ ?_
      · rw [Dict.lookup_set_ne (by decide), Dict.lookup_set_ne (by decide)]
        exact isSome_setDefault _ _ _
      · rw [Dict.lookup_set_ne (by decide), Dict.lookup_set_self]
      · exact Dict.lookup_set_self _ _ _

/-- A request without the flag. -/
theorem branch_of_no_flag {e : Fields τ} (hdismissed : e.lookup "dismissed" = none) :
    Branch e (translate e) := by
  unfold translate
  rw [hdismissed]
  simp only
  cases huntil : e.lookup "dismiss_until" with
  | some ts =>
      simp only
      cases hts : ts.truthy with
      | true =>
          rw [if_pos rfl]
          refine .timed ts hts (.inr ⟨hdismissed, huntil⟩) ?_ ?_ ?_
          · rw [Dict.lookup_set_ne (by decide), Dict.lookup_set_ne (by decide)]
            exact isSome_setDefault _ _ _
          · rw [Dict.lookup_set_ne (by decide), Dict.lookup_set_self]
          · exact Dict.lookup_set_self _ _ _
      | false =>
          rw [if_neg Bool.false_ne_true]
          exact .dropped ts hdismissed huntil hts
            fun key hkey => Dict.lookup_erase_ne (Ne.symm hkey) e
  | none =>
      simp only
      cases hgiven : e.lookup "dismiss_mode" with
      | none => exact .unrelated hdismissed huntil hgiven rfl
      | some mode =>
          simp only
          cases htruthy : mode.truthy with
          | true =>
              rw [if_pos rfl]
              refine .typed mode hdismissed huntil hgiven ?_ ?_ ?_ ?_
              · rw [Dict.lookup_setDefault, if_pos rfl, htruthy, if_pos rfl]
              · rw [Dict.lookup_setDefault_ne (by decide), hgiven]
              · intro hfalsy
                rw [htruthy] at hfalsy
                cases hfalsy
              · intro _
                exact Dict.lookup_setDefault_ne (by decide) _ e
          | false =>
              rw [if_neg Bool.false_ne_true]
              refine .typed mode hdismissed huntil hgiven ?_ ?_ ?_ ?_
              · rw [Dict.lookup_setDefault_ne (by decide), Dict.lookup_setDefault,
                  if_pos rfl, htruthy, if_neg Bool.false_ne_true]
              · rw [Dict.lookup_setDefault_ne (by decide),
                  Dict.lookup_setDefault_ne (by decide), hgiven]
              · intro _
                exact isSome_setDefault _ _ _
              · intro hmode
                rw [htruthy] at hmode
                cases hmode

theorem branch_translate (e : Fields τ) : Branch e (translate e) := by
  cases hdismissed : e.lookup "dismissed" with
  | some dismissed => exact branch_of_flag hdismissed
  | none => exact branch_of_no_flag hdismissed

/-!
## Results
-/

/-- A dismissal comes with a status, and its end with a status and a cleared timestamp. -/
structure Coupled (r : Fields τ) : Prop where
  dismissed : forall mode, r.lookup "dismiss_mode" = some mode -> mode.truthy = true ->
    (r.lookup "status").isSome = true
  ended : forall mode, r.lookup "dismiss_mode" = some mode -> mode.truthy = false ->
    (r.lookup "status").isSome = true ∧ (r.lookup "dismissed_until").isSome = true

theorem setDefault_of_isSome {key : String} {e : Fields τ} (h : (e.lookup key).isSome = true)
    (value : Value τ) : Dict.setDefault key value e = e := by
  rcases Option.isSome_iff_exists.mp h with ⟨old, hold⟩
  unfold Dict.setDefault
  rw [hold]

/-- Without legacy keys, what is coupled is a fixed point. -/
theorem translate_of_coupled {r : Fields τ} (hdismissed : r.lookup "dismissed" = none)
    (huntil : r.lookup "dismiss_until" = none) (h : Coupled r) : translate r = r := by
  unfold translate
  rw [hdismissed, huntil]
  cases hmode : r.lookup "dismiss_mode" with
  | none => rfl
  | some mode =>
      simp only
      cases htruthy : mode.truthy with
      | true =>
          rw [if_pos rfl]
          exact setDefault_of_isSome (h.dismissed mode hmode htruthy) _
      | false =>
          rcases h.ended mode hmode htruthy with ⟨hstatus, htimestamp⟩
          rw [if_neg Bool.false_ne_true, setDefault_of_isSome hstatus,
            setDefault_of_isSome htimestamp]

/-- A blank mode that is taken over without a timestamp key, or a mode beside a blank legacy
timestamp and without what it calls for. -/
def Loose (e : Fields τ) : Prop :=
  (exists dismissed mode, e.lookup "dismissed" = some dismissed ∧ dismissed.truthy = true ∧
      (dismissTimestamp e).1.truthy = false ∧
      e.lookup "dismiss_mode" = some mode ∧ mode.truthy = false ∧
      e.lookup "dismissed_until" = none) ∨
    (e.lookup "dismissed" = none ∧
      exists ts mode, e.lookup "dismiss_until" = some ts ∧ ts.truthy = false ∧
        e.lookup "dismiss_mode" = some mode ∧
        (e.lookup "status" = none ∨
          (mode.truthy = false ∧ e.lookup "dismissed_until" = none)))

theorem Loose.of_dismissed {e : Fields τ} {dismissed : Value τ}
    (hdismissed : e.lookup "dismissed" = some dismissed) (h : Loose e) :
    dismissed.truthy = true ∧ (dismissTimestamp e).1.truthy = false ∧
      (exists mode, e.lookup "dismiss_mode" = some mode ∧ mode.truthy = false) ∧
      e.lookup "dismissed_until" = none := by
  rcases h with ⟨dismissed', mode, hsome, htruthy, hts, hmode, hfalsy, huntil⟩ | ⟨hnone, _⟩
  · rw [hdismissed] at hsome
    cases hsome
    exact ⟨htruthy, hts, ⟨mode, hmode, hfalsy⟩, huntil⟩
  · rw [hdismissed] at hnone
    cases hnone

theorem Loose.of_not_dismissed {e : Fields τ} (hdismissed : e.lookup "dismissed" = none)
    (h : Loose e) : exists ts mode, e.lookup "dismiss_until" = some ts ∧ ts.truthy = false ∧
      e.lookup "dismiss_mode" = some mode ∧
      (e.lookup "status" = none ∨
        (mode.truthy = false ∧ e.lookup "dismissed_until" = none)) := by
  rcases h with ⟨_, _, hsome, _⟩ | ⟨_, hrest⟩
  · rw [hdismissed] at hsome
    cases hsome
  · exact hrest

theorem not_loose {e : Fields τ} (hdismissed : e.lookup "dismissed" = none)
    (huntil : e.lookup "dismiss_until" = none) : ¬ Loose e := by
  intro h
  rcases h.of_not_dismissed hdismissed with ⟨_, _, hsome, _⟩
  rw [huntil] at hsome
  cases hsome

/-- A mode that is there, with what it calls for. -/
theorem coupled_of_mode {r : Fields τ} {mode : Value τ}
    (hmode : r.lookup "dismiss_mode" = some mode) (hstatus : (r.lookup "status").isSome = true)
    (hended : mode.truthy = false -> (r.lookup "dismissed_until").isSome = true) :
    Coupled r := by
  constructor
  · intro _ _ _
    exact hstatus
  · intro mode' hmode' hfalsy
    rw [hmode] at hmode'
    cases hmode'
    exact ⟨hstatus, hended hfalsy⟩

theorem coupled_of_no_mode {r : Fields τ} (hmode : r.lookup "dismiss_mode" = none) :
    Coupled r := by
  constructor
  · intro mode hsome
    rw [hmode] at hsome
    cases hsome
  · intro mode hsome
    rw [hmode] at hsome
    cases hsome

theorem ne_none_iff_isSome {key : String} {e : Fields τ} :
    e.lookup key ≠ none <-> (e.lookup key).isSome = true :=
  Option.isSome_iff_ne_none.symm

/-- A mode without legacy keys beside a blank legacy timestamp is taken as it is. -/
theorem coupled_iff_of_dropped {e r : Fields τ} {ts : Value τ}
    (hdismissed : e.lookup "dismissed" = none) (huntil : e.lookup "dismiss_until" = some ts)
    (hts : ts.truthy = false)
    (hsame : forall key, key ≠ "dismiss_until" -> r.lookup key = e.lookup key) :
    Coupled r <-> ¬ Loose e := by
  have hmode := hsame "dismiss_mode" (by decide)
  have hstatus := hsame "status" (by decide)
  have htimestamp := hsame "dismissed_until" (by decide)
  constructor
  · intro hcoupled hloose
    rcases hloose.of_not_dismissed hdismissed with ⟨_, mode, _, _, hgiven, hmissing⟩
    rcases hmissing with hmissing | ⟨hfalsy, hmissing⟩
    · have hkey : (r.lookup "status").isSome = true := by
        cases htruthy : mode.truthy with
        | true => exact hcoupled.dismissed mode (hmode.trans hgiven) htruthy
        | false => exact (hcoupled.ended mode (hmode.trans hgiven) htruthy).1
      rw [hstatus, hmissing] at hkey
      cases hkey
    · have hkey := (hcoupled.ended mode (hmode.trans hgiven) hfalsy).2
      rw [htimestamp, hmissing] at hkey
      cases hkey
  · intro hloose
    cases hgiven : e.lookup "dismiss_mode" with
    | none => exact coupled_of_no_mode (hmode.trans hgiven)
    | some mode =>
        refine coupled_of_mode (hmode.trans hgiven) ?_ ?_
        · rw [hstatus, ← ne_none_iff_isSome]
          intro hnone
          exact hloose (.inr ⟨hdismissed, ts, mode, huntil, hts, hgiven, .inl hnone⟩)
        · intro hfalsy
          rw [htimestamp, ← ne_none_iff_isSome]
          intro hnone
          exact hloose (.inr ⟨hdismissed, ts, mode, huntil, hts, hgiven, .inr ⟨hfalsy, hnone⟩⟩)

theorem coupled_iff_of_untimed {e r : Fields τ} {dismissed : Value τ}
    (hdismissed : e.lookup "dismissed" = some dismissed) (htruthy : dismissed.truthy = true)
    (hts : (dismissTimestamp e).1.truthy = false) (hstatus : (r.lookup "status").isSome = true)
    (hmode : r.lookup "dismiss_mode" =
      some ((e.lookup "dismiss_mode").getD (.text "permanent")))
    (htimestamp : r.lookup "dismissed_until" = e.lookup "dismissed_until") :
    Coupled r <-> ¬ Loose e := by
  constructor
  · intro hcoupled hloose
    rcases hloose.of_dismissed hdismissed with ⟨_, _, ⟨mode, hgiven, hfalsy⟩, hmissing⟩
    rw [hgiven, Option.getD_some] at hmode
    have hkey := (hcoupled.ended mode hmode hfalsy).2
    rw [htimestamp, hmissing] at hkey
    cases hkey
  · intro hloose
    refine coupled_of_mode hmode hstatus ?_
    intro hfalsy
    rw [htimestamp, ← ne_none_iff_isSome]
    intro hnone
    cases hgiven : e.lookup "dismiss_mode" with
    | none =>
        rw [hgiven, Option.getD_none] at hfalsy
        exact absurd hfalsy (by simp [Value.truthy])
    | some mode =>
        rw [hgiven, Option.getD_some] at hfalsy
        exact hloose (.inl ⟨dismissed, mode, hdismissed, htruthy, hts, hgiven, hfalsy, hnone⟩)

theorem Branch.coupled_iff {e r : Fields τ} (h : Branch e r) : Coupled r <-> ¬ Loose e := by
  cases h with
  | timed ts hts hcase hstatus hmode htimestamp =>
      constructor
      · intro _ hloose
        rcases hcase with ⟨dismissed, hdismissed, _, heq⟩ | ⟨hdismissed, huntil⟩
        · have hfalsy := (hloose.of_dismissed hdismissed).2.1
          rw [heq, hts] at hfalsy
          cases hfalsy
        · rcases hloose.of_not_dismissed hdismissed with ⟨ts', _, hsome, hfalsy, _⟩
          rw [huntil] at hsome
          cases hsome
          rw [hts] at hfalsy
          cases hfalsy
      · intro _
        refine coupled_of_mode hmode hstatus ?_
        intro _
        rw [htimestamp]
        rfl
  | untimed dismissed hdismissed htruthy hts hstatus hmode htimestamp =>
      refine coupled_iff_of_untimed hdismissed htruthy hts ?_ hmode htimestamp
      rw [hstatus]
      rfl
  | undone dismissed hdismissed hfalsy hstatus hmode htimestamp =>
      constructor
      · intro _ hloose
        have htruthy := (hloose.of_dismissed hdismissed).1
        rw [hfalsy] at htruthy
        cases htruthy
      · intro _
        refine coupled_of_mode hmode hstatus ?_
        intro _
        rw [htimestamp]
        rfl
  | dropped ts hdismissed huntil hts hsame =>
      exact coupled_iff_of_dropped hdismissed huntil hts hsame
  | typed mode hdismissed huntil hgiven hstatus hmode hended htimestamp =>
      refine ⟨fun _ => not_loose hdismissed huntil, fun _ => coupled_of_mode hmode ?_ hended⟩
      rw [hstatus]
      rfl
  | unrelated hdismissed huntil hgiven hsame =>
      rw [hsame]
      exact ⟨fun _ => not_loose hdismissed huntil, fun _ => coupled_of_no_mode hgiven⟩

theorem coupled_translate_iff (e : Fields τ) : Coupled (translate e) <-> ¬ Loose e :=
  (branch_translate e).coupled_iff

section Result

variable {e normalized : Fields τ} {strict : Bool}

theorem normalized_keys (h : normalizeEnrichments e strict = .ok normalized) {key : String}
    (hkey : isEnrichable key = false) : normalized.lookup key = none := by
  rw [lookup_normalized h]
  exact if_neg (ne_true_of_eq_false hkey)

/-- Where all keys are known, normalizing is translating. -/
theorem normalizeEnrichments_of_known {r : Fields τ}
    (h : forall entry, entry ∈ translate r -> isEnrichable entry.1 = true) (strict : Bool) :
    normalizeEnrichments r strict = .ok (translate r) := by
  have hunknown : ((translate r).map Prod.fst).filter (fun key => !isEnrichable key) = [] := by
    apply List.filter_eq_nil_iff.mpr
    intro key hkey
    rcases List.mem_map.mp hkey with ⟨entry, hentry, heq⟩
    rw [← heq, h entry hentry]
    exact Bool.false_ne_true
  unfold normalizeEnrichments
  simp only [hunknown]
  rw [if_neg (fun hboth => hboth.2 rfl), List.filter_eq_self.mpr h]

/-- A result is returned again exactly when it is coupled. -/
theorem normalized_again_iff (h : normalizeEnrichments e strict = .ok normalized) :
    normalizeEnrichments normalized strict = .ok normalized <-> Coupled normalized := by
  have hdismissed : normalized.lookup "dismissed" = none := normalized_keys h (by decide)
  have huntil : normalized.lookup "dismiss_until" = none := normalized_keys h (by decide)
  constructor
  · intro hagain
    have hcoupled := (coupled_translate_iff normalized).mpr (not_loose hdismissed huntil)
    have hsame : forall {key}, isEnrichable key = true ->
        (translate normalized).lookup key = normalized.lookup key := by
      intro key hkey
      have hlookup := lookup_normalized hagain key
      rw [if_pos hkey] at hlookup
      exact hlookup.symm
    have hmode := @hsame "dismiss_mode" (by decide)
    have hstatus := @hsame "status" (by decide)
    have htimestamp := @hsame "dismissed_until" (by decide)
    constructor
    · intro mode hsome htruthy
      rw [← hstatus]
      exact hcoupled.dismissed mode (hmode.trans hsome) htruthy
    · intro mode hsome hfalsy
      rw [← hstatus, ← htimestamp]
      exact hcoupled.ended mode (hmode.trans hsome) hfalsy
  · intro hcoupled
    have hfixed := translate_of_coupled hdismissed huntil hcoupled
    have hknown : forall entry, entry ∈ translate normalized -> isEnrichable entry.1 = true := by
      rw [hfixed, normalizeEnrichments_ok h]
      intro entry hentry
      exact (List.mem_filter.mp hentry).2
    rw [normalizeEnrichments_of_known hknown, hfixed]

theorem coupled_normalized_iff (h : normalizeEnrichments e strict = .ok normalized) :
    Coupled normalized <-> Coupled (translate e) := by
  have hsame : forall {key}, isEnrichable key = true ->
      normalized.lookup key = (translate e).lookup key := by
    intro key hkey
    rw [lookup_normalized h, if_pos hkey]
  have hmode := @hsame "dismiss_mode" (by decide)
  have hstatus := @hsame "status" (by decide)
  have htimestamp := @hsame "dismissed_until" (by decide)
  constructor
  · intro hcoupled
    constructor
    · rw [← hmode, ← hstatus]
      exact hcoupled.dismissed
    · rw [← hmode, ← hstatus, ← htimestamp]
      exact hcoupled.ended
  · intro hcoupled
    constructor
    · rw [hmode, hstatus]
      exact hcoupled.dismissed
    · rw [hmode, hstatus, htimestamp]
      exact hcoupled.ended

end Result

/-- The result is returned again, a dismissal has a status, and the end of one has a status and
a timestamp. -/
structure NormalizedOnce (strict : Bool) (normalized : Fields τ) : Prop where
  again : normalizeEnrichments normalized strict = .ok normalized
  dismissed : forall mode, normalized.lookup "dismiss_mode" = some mode -> mode.truthy = true ->
    (normalized.lookup "status").isSome = true
  ended : forall mode, normalized.lookup "dismiss_mode" = some mode -> mode.truthy = false ->
    (normalized.lookup "status").isSome = true ∧
      (normalized.lookup "dismissed_until").isSome = true

/-- Once is enough exactly when no mode is left loose. -/
theorem normalizedOnce_iff (e : EnrichmentDict τ) (strict : Bool) {normalized : Fields τ}
    (h : normalizeEnrichments e.fields strict = .ok normalized) :
    NormalizedOnce strict normalized <-> ¬ Loose e.fields := by
  rw [← coupled_translate_iff, ← coupled_normalized_iff h]
  constructor
  · intro honce
    exact ⟨honce.dismissed, honce.ended⟩
  · intro hcoupled
    exact ⟨(normalized_again_iff h).mpr hcoupled, hcoupled.dismissed, hcoupled.ended⟩

theorem legacyDismissal_normalizedOnce :
    NormalizedOnce true
        [("status", (.text "suppressed" : Value String)), ("dismiss_mode", .text "permanent")] <->
      ¬ Loose legacyDismissal.fields :=
  normalizedOnce_iff legacyDismissal true (by decide)

/-- The legacy flag beside a mode that the form left empty. -/
def emptyMode : EnrichmentDict String where
  fields := [("dismissed", .bool true), ("dismiss_mode", .none)]
  distinct := by simp [Dict.Distinct]

/-- The result has no timestamp, and the second pass adds one. -/
theorem emptyMode_not_normalizedOnce :
    normalizeEnrichments emptyMode.fields true =
        .ok [("dismiss_mode", .none), ("status", .text "suppressed")] ∧
      ¬ NormalizedOnce true [("dismiss_mode", (Value.none : Value String)),
        ("status", .text "suppressed")] := by
  refine ⟨by decide, ?_⟩
  intro honce
  have htimestamp := (honce.ended .none rfl rfl).2
  cases htimestamp

end Enrichments
end KeepGateway
