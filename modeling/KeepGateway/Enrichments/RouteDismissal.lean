import KeepGateway.Enrichments.LegacyKeys

/-!
# Dismissals through the route

The route translates the legacy keys of a dismissal before the database does it again.  Both
fill in the same keys once they have the flag and the timestamp; they differ in how they read
the two, and the translation of the route goes through that of the database.
-/

namespace KeepGateway
namespace Enrichments

variable {τ : Type}

/-- What both translations make of the flag and the timestamp. -/
def dismissWith (dismissed : Bool) (ts : Value τ) (e : Fields τ) : Fields τ :=
  if dismissed then
    let e := Dict.setDefault "status" (.text "suppressed") e
    if ts.truthy then
      Dict.set "dismissed_until" ts (Dict.set "dismiss_mode" (.text "dismiss_until") e)
    else Dict.setDefault "dismiss_mode" (.text "permanent") e
  else
    Dict.set "dismissed_until" .none
      (Dict.set "dismiss_mode" .none (Dict.setDefault "status" .none e))

/-- The letters of `text.lower()`; outside ASCII no letter becomes one of `true` or `false`. -/
def lowered (text : String) : List Char := text.toList.map Char.toLower

/-- `str(raw).lower() == "true"`, and a Boolean as it is.  No other value has that text. -/
def saysTrue : Value τ -> Bool
  | .bool b => b
  | .text s => lowered s == "true".toList
  | _ => false

/-- `enrichments.get("dismissed_until") or enrichments.pop("dismiss_until", None)` -/
def routeTimestamp (e : Fields τ) : Value τ × Fields τ :=
  let ts := (e.lookup "dismissed_until").getD .none
  if ts.truthy then (ts, e)
  else ((e.lookup "dismiss_until").getD .none, Dict.erase "dismiss_until" e)

/-- `_translate_dismiss_enrichments` -/
def translateDismissEnrichments (e : Fields τ) : Fields τ :=
  match e.lookup "dismissed" with
  | none => e
  | some raw =>
      let (ts, e) := routeTimestamp (Dict.erase "dismissed" e)
      dismissWith (saysTrue raw) ts e

/-!
## The keys of a dismissal
-/

/-- What a dictionary gives for the three columns of a dismissal. -/
structure Dismissal (τ : Type) where
  status : Option (Value τ)
  mode : Option (Value τ)
  timestamp : Option (Value τ)
  deriving DecidableEq, Repr

def dismissalOf (e : Fields τ) : Dismissal τ where
  status := e.lookup "status"
  mode := e.lookup "dismiss_mode"
  timestamp := e.lookup "dismissed_until"

def Dismissal.after (d : Dismissal τ) (dismissed : Bool) (ts : Value τ) : Dismissal τ :=
  if dismissed then
    if ts.truthy then
      { status := some (d.status.getD (.text "suppressed"))
        mode := some (.text "dismiss_until")
        timestamp := some ts }
    else
      { status := some (d.status.getD (.text "suppressed"))
        mode := some (d.mode.getD (.text "permanent"))
        timestamp := d.timestamp }
  else
    { status := some (d.status.getD .none)
      mode := some .none
      timestamp := some .none }

/-- A mode that is empty comes with a timestamp. -/
def Dismissal.completed (d : Dismissal τ) : Dismissal τ :=
  if (d.mode.getD .none).truthy then d
  else { d with timestamp := some (d.timestamp.getD .none) }

theorem dismissalOf_dismissWith (dismissed : Bool) (ts : Value τ) (e : Fields τ) :
    dismissalOf (dismissWith dismissed ts e) = (dismissalOf e).after dismissed ts := by
  unfold dismissalOf dismissWith Dismissal.after
  cases dismissed with
  | true =>
      cases ts.truthy <;> simp [Dict.lookup_set, Dict.lookup_setDefault]
  | false => simp [Dict.lookup_set, Dict.lookup_setDefault]

/-- The other keys stay as they are. -/
theorem lookup_dismissWith (dismissed : Bool) (ts : Value τ) (e : Fields τ) {key : String}
    (hstatus : "status" ≠ key) (hmode : "dismiss_mode" ≠ key)
    (htimestamp : "dismissed_until" ≠ key) :
    (dismissWith dismissed ts e).lookup key = e.lookup key := by
  unfold dismissWith
  cases dismissed with
  | true =>
      cases ts.truthy <;>
        simp [Dict.lookup_set, Dict.lookup_setDefault, hstatus, hmode, htimestamp]
  | false => simp [Dict.lookup_set, Dict.lookup_setDefault, hstatus, hmode, htimestamp]

theorem translate_dismissed {e : Fields τ} {raw : Value τ} (h : e.lookup "dismissed" = some raw) :
    translate e = dismissWith raw.truthy (dismissTimestamp (Dict.erase "dismissed" e)).1
      (dismissTimestamp (Dict.erase "dismissed" e)).2 := by
  unfold translate
  rw [h]
  rfl

theorem route_dismissed {e : Fields τ} {raw : Value τ} (h : e.lookup "dismissed" = some raw) :
    translateDismissEnrichments e =
      dismissWith (saysTrue raw) (routeTimestamp (Dict.erase "dismissed" e)).1
        (routeTimestamp (Dict.erase "dismissed" e)).2 := by
  unfold translateDismissEnrichments
  rw [h]

theorem route_not_dismissed {e : Fields τ} (h : e.lookup "dismissed" = none) :
    translateDismissEnrichments e = e := by
  unfold translateDismissEnrichments
  rw [h]

/-- The timestamp of the route is the same without the flag, and taking it leaves the other
keys. -/
theorem routeTimestamp_erase (e : Fields τ) :
    (routeTimestamp (Dict.erase "dismissed" e)).1 = (routeTimestamp e).1 ∧
      forall key, key ≠ "dismissed" -> key ≠ "dismiss_until" ->
        (routeTimestamp (Dict.erase "dismissed" e)).2.lookup key = e.lookup key := by
  have hlookup : forall {key}, key ≠ "dismissed" ->
      (Dict.erase "dismissed" e).lookup key = e.lookup key :=
    fun h => Dict.lookup_erase_ne (Ne.symm h) e
  unfold routeTimestamp
  rw [@hlookup "dismissed_until" (by decide), @hlookup "dismiss_until" (by decide)]
  constructor
  · simp only
    split
    · rfl
    · rfl
  · intro key hdismissed huntil
    simp only
    split
    · exact hlookup hdismissed
    · exact (Dict.lookup_erase_ne (Ne.symm huntil) _).trans (hlookup hdismissed)

theorem dismissalOf_congr {e r : Fields τ}
    (h : forall key, key ≠ "dismissed" -> key ≠ "dismiss_until" -> r.lookup key = e.lookup key) :
    dismissalOf r = dismissalOf e := by
  unfold dismissalOf
  rw [h "status" (by decide) (by decide), h "dismiss_mode" (by decide) (by decide),
    h "dismissed_until" (by decide) (by decide)]

theorem dismissalOf_translate {e : Fields τ} {raw : Value τ}
    (h : e.lookup "dismissed" = some raw) :
    dismissalOf (translate e) = (dismissalOf e).after raw.truthy (dismissTimestamp e).1 := by
  rcases dismissTimestamp_erase e with ⟨htimestamp, hrest⟩
  rw [translate_dismissed h, dismissalOf_dismissWith, htimestamp, dismissalOf_congr hrest]

theorem dismissalOf_route {e : Fields τ} {raw : Value τ} (h : e.lookup "dismissed" = some raw) :
    dismissalOf (translateDismissEnrichments e) =
      (dismissalOf e).after (saysTrue raw) (routeTimestamp e).1 := by
  rcases routeTimestamp_erase e with ⟨htimestamp, hrest⟩
  rw [route_dismissed h, dismissalOf_dismissWith, htimestamp, dismissalOf_congr hrest]

/-!
## Keys after the route
-/

theorem lookup_dismissed_route (e : Fields τ) :
    (translateDismissEnrichments e).lookup "dismissed" = none := by
  cases hdismissed : e.lookup "dismissed" with
  | none => rw [route_not_dismissed hdismissed, hdismissed]
  | some raw =>
      have herased : (Dict.erase "dismissed" e).lookup "dismissed" = none := by
        rw [Dict.lookup_erase, if_pos rfl]
      rw [route_dismissed hdismissed,
        lookup_dismissWith _ _ _ (by decide) (by decide) (by decide)]
      unfold routeTimestamp
      simp only
      split
      · exact herased
      · exact (Dict.lookup_erase_ne (by decide) _).trans herased

/-- Keys that have nothing to do with a dismissal stay. -/
theorem lookup_route (e : Fields τ) {key : String}
    (hkey : key ∉ ["dismissed", "dismiss_until", "status", "dismiss_mode", "dismissed_until"]) :
    (translateDismissEnrichments e).lookup key = e.lookup key := by
  simp only [List.mem_cons, not_or, List.not_mem_nil, not_false_eq_true, and_true] at hkey
  rcases hkey with ⟨hflag, hlegacy, hstatus, hmode, htimestamp⟩
  cases hdismissed : e.lookup "dismissed" with
  | none => rw [route_not_dismissed hdismissed]
  | some raw =>
      rw [route_dismissed hdismissed,
        lookup_dismissWith _ _ _ (Ne.symm hstatus) (Ne.symm hmode) (Ne.symm htimestamp)]
      exact (routeTimestamp_erase e).2 key hflag hlegacy

/-- The legacy timestamp is left where the other one is taken. -/
theorem lookup_dismissUntil_route {e : Fields τ} (h : ¬ Clash e) {raw : Value τ}
    (hdismissed : e.lookup "dismissed" = some raw) :
    (translateDismissEnrichments e).lookup "dismiss_until" = none := by
  rw [route_dismissed hdismissed,
    lookup_dismissWith _ _ _ (by decide) (by decide) (by decide)]
  have hlookup : forall {key}, "dismissed" ≠ key ->
      (Dict.erase "dismissed" e).lookup key = e.lookup key := fun h => Dict.lookup_erase_ne h e
  unfold routeTimestamp
  simp only
  split
  · rename_i htruthy
    rw [@hlookup "dismissed_until" (by decide)] at htruthy
    rw [@hlookup "dismiss_until" (by decide)]
    cases huntil : e.lookup "dismiss_until" with
    | none => rfl
    | some ts =>
        cases htimestamp : e.lookup "dismissed_until" with
        | none =>
            rw [htimestamp] at htruthy
            cases htruthy
        | some given =>
            rw [htimestamp] at htruthy
            refine (h ⟨by rw [hdismissed]; rfl, by rw [huntil]; rfl, given, htimestamp, ?_⟩).elim
            rintro rfl
            cases htruthy
  · rw [Dict.lookup_erase, if_pos rfl]

theorem knownKeys_route {e : Fields τ} (h : KnownKeys e) :
    KnownKeys (translateDismissEnrichments e) := by
  intro key hkey
  rcases Classical.em (key ∈ ["dismissed", "dismiss_until", "status", "dismiss_mode",
    "dismissed_until"]) with hdismissal | hother
  · simp only [List.mem_cons, List.not_mem_nil, or_false] at hdismissal
    rcases hdismissal with rfl | rfl | rfl | rfl | rfl <;> simp [enrichmentColumns, legacyKeys]
  · have hmem : key ∈ e.map Prod.fst := by
      by_contra habsent
      rw [← Dict.lookup_eq_none, ← lookup_route e hother, Dict.lookup_eq_none] at habsent
      exact habsent hkey
    exact h key hmem

/-!
## The two readings
-/

theorem after_congr (d : Dismissal τ) (dismissed : Bool) {ts ts' : Value τ}
    (htruthy : ts'.truthy = ts.truthy) (hsame : ts.truthy = true -> ts' = ts) :
    d.after dismissed ts' = d.after dismissed ts := by
  unfold Dismissal.after
  rw [htruthy]
  cases hts : ts.truthy with
  | true => rw [hsame hts]
  | false => rfl

/-- Without a clash the two timestamps differ in nothing but how they are empty. -/
theorem timestamps_alike {e : Fields τ} (h : ¬ Clash e) {raw : Value τ}
    (hdismissed : e.lookup "dismissed" = some raw) :
    (routeTimestamp e).1.truthy = (dismissTimestamp e).1.truthy ∧
      ((dismissTimestamp e).1.truthy = true -> (routeTimestamp e).1 = (dismissTimestamp e).1) := by
  rcases Classical.em ((e.lookup "dismissed_until").getD .none = .none) with hnone | hgiven
  · unfold routeTimestamp dismissTimestamp
    rw [hnone]
    exact ⟨rfl, fun _ => rfl⟩
  · have huntil : e.lookup "dismiss_until" = none := by
      by_contra hsome
      refine h ⟨by rw [hdismissed]; rfl, Option.isSome_iff_ne_none.mpr hsome, ?_⟩
      by_contra hnot
      exact hgiven (getD_eq_none_iff.mpr hnot)
    have htaken : (dismissTimestamp e).1 = (e.lookup "dismissed_until").getD .none := by
      unfold dismissTimestamp
      split
      · rename_i heq
        exact (hgiven heq).elim
      · rfl
    rw [htaken]
    unfold routeTimestamp
    rw [huntil]
    simp only
    cases hts : ((e.lookup "dismissed_until").getD .none).truthy with
    | true =>
        rw [if_pos rfl]
        exact ⟨hts, fun _ => rfl⟩
    | false =>
        rw [if_neg Bool.false_ne_true]
        refine ⟨rfl, fun htrue => ?_⟩
        cases htrue

/-- The second pass over a dismissal whose keys are there. -/
theorem dismissalOf_translate_again {r : Fields τ} (hdismissed : r.lookup "dismissed" = none)
    (huntil : r.lookup "dismiss_until" = none) (hstatus : (r.lookup "status").isSome = true)
    (hmode : (r.lookup "dismiss_mode").isSome = true) :
    dismissalOf (translate r) = (dismissalOf r).completed := by
  rcases Option.isSome_iff_exists.mp hmode with ⟨mode, hgiven⟩
  unfold translate Dismissal.completed
  rw [hdismissed, huntil, hgiven]
  simp only
  have hread : ((dismissalOf r).mode.getD .none).truthy = mode.truthy := by
    show ((r.lookup "dismiss_mode").getD .none).truthy = _
    rw [hgiven]
    rfl
  rw [hread, setDefault_of_isSome hstatus, setDefault_of_isSome hstatus]
  cases mode.truthy with
  | true => rfl
  | false =>
      rw [if_neg Bool.false_ne_true, if_neg Bool.false_ne_true]
      unfold dismissalOf
      rw [Dict.lookup_setDefault_ne (by decide), Dict.lookup_setDefault_ne (by decide),
        Dict.lookup_setDefault, if_pos rfl]

/-- What the database makes of a dismissal that comes through the route. -/
theorem dismissalOf_translate_route {e : Fields τ} (h : ¬ Clash e) {raw : Value τ}
    (hdismissed : e.lookup "dismissed" = some raw) :
    dismissalOf (translate (translateDismissEnrichments e)) =
      ((dismissalOf e).after (saysTrue raw) (dismissTimestamp e).1).completed := by
  rcases timestamps_alike h hdismissed with ⟨htruthy, hsame⟩
  have hroute := (dismissalOf_route hdismissed).trans
    (after_congr (dismissalOf e) (saysTrue raw) htruthy hsame)
  have hkeys : forall d : Dismissal τ, forall dismissed ts,
      (d.after dismissed ts).status.isSome = true ∧ (d.after dismissed ts).mode.isSome = true := by
    intro d dismissed ts
    unfold Dismissal.after
    cases dismissed <;> cases ts.truthy <;> exact ⟨rfl, rfl⟩
  rcases hkeys (dismissalOf e) (saysTrue raw) (dismissTimestamp e).1 with ⟨hstatus, hmode⟩
  rw [← hroute] at hstatus hmode ⊢
  exact dismissalOf_translate_again (lookup_dismissed_route e)
    (lookup_dismissUntil_route h hdismissed) hstatus hmode

/-!
## Agreement
-/

/-- Both are errors, or the same dictionary. -/
def SameOutcome : Except Failure (Fields τ) -> Except Failure (Fields τ) -> Prop
  | .error _, .error _ => True
  | .ok d, .ok d' => forall key, d.lookup key = d'.lookup key
  | _, _ => False

/-- The database makes of an enrichment what it makes of the route's translation of it. -/
def ReadAlike (e : Fields τ) : Prop :=
  SameOutcome (normalizeEnrichments (translateDismissEnrichments e) true)
    (normalizeEnrichments e true)

/-- An undone dismissal is spelled out: it comes with a status, and its mode and its timestamp
are None. -/
structure SpelledOut (e : Fields τ) : Prop where
  status : (e.lookup "status").isSome = true
  timestamp : (dismissTimestamp e).1.truthy = false
  mode : e.lookup "dismiss_mode" = some .none
  dismissedUntil : e.lookup "dismissed_until" = some .none

/-- The timestamps do not clash, and the flag is read alike with no loose mode beside it, or
leaves nothing to be filled in. -/
def Unambiguous (e : Fields τ) : Prop :=
  ¬ Clash e ∧ forall raw, e.lookup "dismissed" = some raw ->
    if saysTrue raw = raw.truthy then ¬ Loose e else SpelledOut e

theorem not_clash_route (e : Fields τ) : ¬ Clash (translateDismissEnrichments e) := by
  intro h
  have hflag := h.1
  rw [lookup_dismissed_route] at hflag
  cases hflag

/-- The outcomes are the same where no key is left over and the translations are the same. -/
theorem readAlike_iff_translate {e : Fields τ} (hkeys : KnownKeys e) :
    ReadAlike e <-> ¬ Clash e ∧ forall key,
      (translate (translateDismissEnrichments e)).lookup key = (translate e).lookup key := by
  have hroute : normalizeEnrichments (translateDismissEnrichments e) true = .ok _ :=
    normalizeEnrichments_of_known
      ((translate_known_iff (knownKeys_route hkeys)).mpr (not_clash_route e)) true
  unfold ReadAlike
  rw [hroute]
  constructor
  · intro h
    cases hresult : normalizeEnrichments e true with
    | error failure =>
        rw [hresult] at h
        exact h.elim
    | ok normalized =>
        rcases normalizeEnrichments_strict hresult with ⟨hknown, heq⟩
        rw [hresult, heq] at h
        exact ⟨(translate_known_iff hkeys).mp hknown, h⟩
  · rintro ⟨hclash, hsame⟩
    rw [normalizeEnrichments_of_known ((translate_known_iff hkeys).mpr hclash) true]
    exact hsame

/-- The translations are the same where they agree on the three columns. -/
theorem same_translate_iff {e : Fields τ} (h : ¬ Clash e) :
    (forall key,
        (translate (translateDismissEnrichments e)).lookup key = (translate e).lookup key) <->
      dismissalOf (translate (translateDismissEnrichments e)) = dismissalOf (translate e) := by
  constructor
  · intro hsame
    exact dismissalOf_congr fun key _ _ => hsame key
  · intro hsame key
    rcases Classical.em (key ∈ ["dismissed", "dismiss_until", "status", "dismiss_mode",
      "dismissed_until"]) with hdismissal | hother
    · simp only [List.mem_cons, List.not_mem_nil, or_false] at hdismissal
      rcases hdismissal with rfl | rfl | rfl | rfl | rfl
      · rw [lookup_dismissed_translate, lookup_dismissed_translate]
      · rw [(lookup_dismissUntil_translate e).mpr h,
          (lookup_dismissUntil_translate _).mpr (not_clash_route e)]
      · exact congrArg Dismissal.status hsame
      · exact congrArg Dismissal.mode hsame
      · exact congrArg Dismissal.timestamp hsame
    · rw [lookup_translate _ hother, lookup_translate _ hother, lookup_route e hother]

theorem truthy_of_saysTrue {raw : Value τ} (h : saysTrue raw = true) : raw.truthy = true := by
  cases raw with
  | bool b => exact h
  | text s =>
      refine bne_iff_ne.mpr ?_
      intro hempty
      rw [hempty] at h
      cases h
  | _ => cases h

theorem after_timed (d : Dismissal τ) {ts : Value τ} (h : ts.truthy = true) :
    d.after true ts =
      { status := some (d.status.getD (.text "suppressed"))
        mode := some (.text "dismiss_until")
        timestamp := some ts } := by
  unfold Dismissal.after
  rw [if_pos rfl, if_pos h]

theorem after_untimed (d : Dismissal τ) {ts : Value τ} (h : ts.truthy = false) :
    d.after true ts =
      { status := some (d.status.getD (.text "suppressed"))
        mode := some (d.mode.getD (.text "permanent"))
        timestamp := d.timestamp } := by
  unfold Dismissal.after
  rw [if_pos rfl, h, if_neg Bool.false_ne_true]

/-- What is read alike stays as it is, unless an empty mode is taken over. -/
theorem completed_after_iff (d : Dismissal τ) (dismissed : Bool) (ts : Value τ) :
    (d.after dismissed ts).completed = d.after dismissed ts <->
      ¬ (dismissed = true ∧ ts.truthy = false ∧
        (exists mode, d.mode = some mode ∧ mode.truthy = false) ∧ d.timestamp = none) := by
  cases dismissed with
  | false => exact iff_of_true rfl fun h => Bool.false_ne_true h.1
  | true =>
      cases hts : ts.truthy with
      | true =>
          rw [after_timed d hts]
          exact iff_of_true rfl fun h => Bool.false_ne_true h.2.1.symm
      | false =>
          rw [after_untimed d hts]
          rcases d with ⟨status, mode, timestamp⟩
          cases mode with
          | none => exact iff_of_true rfl (by simp)
          | some mode =>
              cases hmode : mode.truthy with
              | true => simp [Dismissal.completed, hmode]
              | false => cases timestamp <;> simp [Dismissal.completed, hmode]

/-- What undoes a dismissal for the one and makes it for the other comes to the same where
everything is given. -/
theorem completed_undone_iff (d : Dismissal τ) (ts : Value τ) :
    (d.after false ts).completed = d.after true ts <->
      d.status.isSome = true ∧ ts.truthy = false ∧ d.mode = some .none ∧
        d.timestamp = some .none := by
  have hundone : (d.after false ts).completed =
      { status := some (d.status.getD .none)
        mode := some .none
        timestamp := some .none } := rfl
  rw [hundone]
  cases hts : ts.truthy with
  | true =>
      rw [after_timed d hts]
      simp
  | false =>
      rw [after_untimed d hts]
      rcases d with ⟨status, mode, timestamp⟩
      cases status <;> cases mode <;> simp [@eq_comm _ (some Value.none)]

theorem loose_iff_of_dismissed {e : Fields τ} {raw : Value τ}
    (hdismissed : e.lookup "dismissed" = some raw) :
    Loose e <-> raw.truthy = true ∧ (dismissTimestamp e).1.truthy = false ∧
      (exists mode, e.lookup "dismiss_mode" = some mode ∧ mode.truthy = false) ∧
        e.lookup "dismissed_until" = none := by
  constructor
  · exact Loose.of_dismissed hdismissed
  · rintro ⟨htruthy, hts, ⟨mode, hmode, hfalsy⟩, huntil⟩
    exact Or.inl ⟨raw, mode, hdismissed, htruthy, hts, hmode, hfalsy, huntil⟩

theorem spelledOut_iff {e : Fields τ} :
    SpelledOut e <-> (e.lookup "status").isSome = true ∧
      (dismissTimestamp e).1.truthy = false ∧ e.lookup "dismiss_mode" = some .none ∧
        e.lookup "dismissed_until" = some .none := by
  constructor
  · intro h
    exact ⟨h.status, h.timestamp, h.mode, h.dismissedUntil⟩
  · rintro ⟨hstatus, htimestamp, hmode, huntil⟩
    exact ⟨hstatus, htimestamp, hmode, huntil⟩

/-- An enrichment is read alike with and without the route exactly where it is unambiguous. -/
theorem readAlike_iff (e : EnrichmentDict τ) (hkeys : KnownKeys e.fields) :
    ReadAlike e.fields <-> Unambiguous e.fields := by
  rw [readAlike_iff_translate hkeys]
  unfold Unambiguous
  apply and_congr_right
  intro hclash
  rw [same_translate_iff hclash]
  cases hdismissed : e.fields.lookup "dismissed" with
  | none => simp [route_not_dismissed hdismissed]
  | some raw =>
      rw [dismissalOf_translate_route hclash hdismissed, dismissalOf_translate hdismissed]
      simp only [Option.some.injEq, forall_eq']
      cases hsays : saysTrue raw with
      | true =>
          have htruthy := truthy_of_saysTrue hsays
          rw [if_pos htruthy.symm, htruthy, loose_iff_of_dismissed hdismissed, htruthy]
          exact completed_after_iff (dismissalOf e.fields) true _
      | false =>
          cases htruthy : raw.truthy with
          | false =>
              rw [if_pos rfl, loose_iff_of_dismissed hdismissed, htruthy]
              exact completed_after_iff (dismissalOf e.fields) false _
          | true =>
              rw [if_neg Bool.false_ne_true, spelledOut_iff]
              exact completed_undone_iff (dismissalOf e.fields) _

theorem legacyDismissal_readAlike_iff :
    ReadAlike legacyDismissal.fields <-> Unambiguous legacyDismissal.fields :=
  readAlike_iff legacyDismissal legacyDismissal_knownKeys

/-- The flag as the UI sends it: a Boolean, or `true` or `false` in any letter case. -/
def FlagOfUi (e : Fields τ) : Prop :=
  forall raw, e.lookup "dismissed" = some raw ->
    (exists b, raw = .bool b) ∨
      exists s, raw = .text s ∧ (lowered s = "true".toList ∨ lowered s = "false".toList)

/-- A request of the UI that ends a dismissal. -/
def restoring : EnrichmentDict String where
  fields := [("dismissed", .text "false")]
  distinct := by simp [Dict.Distinct]

/-- The text `false` ends a dismissal for the route and makes one for the database. -/
theorem restoring_not_readAlike :
    ¬ forall e : EnrichmentDict String, KnownKeys e.fields -> FlagOfUi e.fields ->
      ReadAlike e.fields := by
  intro h
  have hkeys : KnownKeys restoring.fields := by
    intro key hkey
    rw [List.mem_singleton.mp hkey]
    exact .inr List.mem_cons_self
  have hflag : FlagOfUi restoring.fields := by
    intro raw hraw
    have hfalse : Value.text "false" = raw := Option.some.inj hraw
    exact .inr ⟨"false", hfalse.symm, .inr (by decide)⟩
  have halike := (readAlike_iff restoring hkeys).mp (h restoring hkeys hflag)
  have hread := halike.2 (.text "false") rfl
  have hdiffer : saysTrue (Value.text "false" : Value String) ≠
      (Value.text "false" : Value String).truthy := by decide
  rw [if_neg hdiffer] at hread
  cases hread.status

end Enrichments
end KeepGateway
