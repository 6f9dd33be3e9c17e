import KeepGateway.Enrichments.ElasticDocument

/-!
# Documents and rows

Whether the document of an alert follows its row.  The enrichments are written to the row and
applied to the document by different code: the document takes no clearing of a field, gives up
its deletion where an enrichment does not mention it, takes a note that the row does not, and
takes a timestamp as it is given.
-/

namespace KeepGateway
namespace Enrichments

variable {τ : Type}

structure AlertState (τ : Type) where
  row : LastAlert τ
  document : AlertDto τ

/-- A call of `enrich_entity` on the alert, and whether its event is published or none is
asked for. -/
structure EnrichCall (τ : Type) where
  enrichments : EnrichmentDict τ
  disposeOnNewAlert : Bool
  force : Bool
  strict : Bool
  published : Bool

section Agreement

variable (st : Storage τ) (fm : Formats τ) (provider : ProviderAlert)

/-- `_enrich_entity_impl` with `should_exist`; a call that raises keeps what it has written. -/
def AlertState.call (s : AlertState τ) (c : EnrichCall τ) : AlertState τ :=
  match normalizedForm c.enrichments.fields c.disposeOnNewAlert c.strict with
  | .error _ => s
  | .ok sent =>
      match enrichRow st (some s.row) sent c.force c.strict with
      | .ok (some row) =>
          if c.published then
            { row := row, document := (enrichAlert fm s.document sent).getD s.document }
          else { s with row := row }
      | _ => s

structure AlertState.Follows (s : AlertState τ) : Prop where
  fields : forall f, s.document.get f = (shownBy fm provider s.row).get f
  deleted : s.document.deleted = (shownBy fm provider s.row).deleted

/-!
## Enrichments that arrive
-/

/-- What a row gives that stores this value. -/
def gives (f : Shown) (stored : Value τ) : Value τ :=
  (stored.timeText fm.strftime).orElse (provider.dto.get f)

/-- The enrichments that are `sent` bring a field of the document to what a row gives that is
written `again`. -/
def Arrives (document : AlertDto τ) (sent again : Fields τ) (force : Bool) (f : Shown) : Prop :=
  match sent.lookup f.key with
  -- the document is not cleared, and has to show the provider's value already
  | some .none =>
      skipped force f.key (.none : Value τ) = true ∨
        reread f (document.get f) = provider.dto.get f
  | some value =>
      if skipped force f.key value = true then
        value.timeText fm.isoformat = document.get f
      else
        forall stored, storedAs st f.key value = some stored ->
          value.timeText fm.isoformat = stored.timeText fm.strftime
  | none =>
      match again.lookup f.key with
      | none => reread f (document.get f) = document.get f
      -- only the second normalization has the field
      | some value =>
          forall stored, storedAs st f.key value = some stored ->
            reread f (document.get f) = gives fm provider f stored

/-- A document that stays as it is already shows what is written. -/
def Unseen (document : AlertDto τ) (again : Fields τ) (force : Bool) : Prop :=
  (forall f value stored, written force again f.key = some value ->
      storedAs st f.key value = some stored ->
        gives fm provider f stored = document.get f) ∧
    forall value, again.lookup "deleted" = some value -> value.truthy = document.deleted

/-- What a call has to meet where it writes. -/
def AlertState.Safe (s : AlertState τ) (c : EnrichCall τ) : Prop :=
  forall sent again,
    normalizedForm c.enrichments.fields c.disposeOnNewAlert c.strict = .ok sent ->
      normalizeEnrichments sent c.strict = .ok again -> Storable st c.force again ->
        if c.published = true ∧ (fm.str s.document.dismissUntil).isSome = true then
          (forall f, Arrives st fm provider s.document sent again c.force f) ∧
            (sent.lookup "deleted" = none -> s.row.deleted = false)
        else Unseen st fm provider s.document again c.force

end Agreement

/-!
## Normalizing again
-/

theorem lookup_setDefault_some {key k : String} {value v : Value τ} {e : Fields τ}
    (h : e.lookup k = some v) : (Dict.setDefault key value e).lookup k = some v := by
  rw [Dict.lookup_setDefault, h, Option.getD_some, ite_self]

section Again

variable {e sent again : Fields τ} {strict : Bool}

/-- The second normalization keeps what the first has. -/
theorem lookup_again (hsent : normalizeEnrichments e strict = .ok sent)
    (hagain : normalizeEnrichments sent strict = .ok again) {key : String} {value : Value τ}
    (h : sent.lookup key = some value) : again.lookup key = some value := by
  have hkey : isEnrichable key = true := by
    cases henrichable : isEnrichable key with
    | true => rfl
    | false =>
        rw [normalized_keys hsent henrichable] at h
        cases h
  have hdismissed : sent.lookup "dismissed" = none := normalized_keys hsent (by decide)
  have huntil : sent.lookup "dismiss_until" = none := normalized_keys hsent (by decide)
  rw [lookup_normalized hagain, if_pos hkey]
  unfold translate
  rw [hdismissed, huntil]
  cases sent.lookup "dismiss_mode" with
  | none => exact h
  | some mode =>
      simp only
      split
      · exact lookup_setDefault_some h
      · exact lookup_setDefault_some (lookup_setDefault_some h)

theorem lookup_again_eq (hagain : normalizeEnrichments sent strict = .ok again) {key : String}
    (hkey : isEnrichable key = true)
    (hother : key ∉ ["dismissed", "dismiss_until", "status", "dismiss_mode", "dismissed_until"]) :
    again.lookup key = sent.lookup key := by
  rw [lookup_normalized hagain, if_pos hkey, lookup_translate sent hother]

end Again

/-!
## The row
-/

section Row

variable {st : Storage τ} {fm : Formats τ} {provider : ProviderAlert} {row row' : LastAlert τ}
  {again : Fields τ} {force : Bool}

theorem shown_of_written (hagain : Dict.Distinct again)
    (h : applyEnrichmentsToLastAlert st force row again = .ok row') {f : Shown}
    {value stored : Value τ} (hwritten : written force again f.key = some value)
    (hstored : storedAs st f.key value = some stored) :
    (shownBy fm provider row').get f = gives fm provider f stored := by
  rw [get_shownBy]
  unfold LastAlert.attribute
  rw [lookup_applyEnrichments hagain h, hwritten, Option.elim_some, hstored]
  rfl

theorem shown_of_not_written (hagain : Dict.Distinct again)
    (h : applyEnrichmentsToLastAlert st force row again = .ok row') {f : Shown}
    (hwritten : written force again f.key = none) :
    (shownBy fm provider row').get f = (shownBy fm provider row).get f := by
  rw [get_shownBy, get_shownBy]
  unfold LastAlert.attribute
  rw [lookup_applyEnrichments hagain h, hwritten, Option.elim_none]

theorem shownBy_deleted (row : LastAlert τ) :
    (shownBy fm provider row).deleted = row.deleted := by
  show (((lastAlertEnrichmentsDict fm row).lookup "deleted").getD (.bool false)).truthy = _
  unfold lastAlertEnrichmentsDict
  rw [Dict.lookup_present (by simp [Dict.Distinct])]
  show (Option.getD (some (if row.deleted then some (Value.bool true) else none)).join
    (Value.bool false : Value τ)).truthy = _
  cases row.deleted with
  | true => rfl
  | false => rfl

theorem stored_deleted {value stored : Value τ} (h : storedAs st "deleted" value = some stored) :
    stored = .bool value.truthy := by
  have hflag : (st.notNullFlag value).map Value.bool = some stored := h
  rcases Option.map_eq_some_iff.mp hflag with ⟨b, hb, heq⟩
  rw [← heq]
  cases value with
  | none => cases hb
  | _ => exact congrArg Value.bool (st.flag_truthy _ b hb)

/-- The row is deleted as it is told, and otherwise as it was. -/
theorem deleted_applied (hagain : Dict.Distinct again)
    (h : applyEnrichmentsToLastAlert st force row again = .ok row') :
    row'.deleted = (again.lookup "deleted").elim row.deleted Value.truthy := by
  have hwritten : written force again "deleted" = again.lookup "deleted" := by
    unfold written
    cases again.lookup "deleted" with
    | none => rfl
    | some value => rfl
  have hlookup := lookup_applyEnrichments hagain h "deleted"
  have hrow : forall row : LastAlert τ, row.attributes.lookup "deleted" =
      some (.bool row.deleted) := fun _ => rfl
  rw [hrow, hrow, hwritten] at hlookup
  cases hgiven : again.lookup "deleted" with
  | none =>
      rw [hgiven] at hlookup
      exact Value.bool.inj (Option.some.inj hlookup)
  | some value =>
      rw [hgiven] at hlookup
      exact Value.bool.inj (stored_deleted hlookup.symm)

end Row

/-!
## The document
-/

section Document

variable {st : Storage τ} {fm : Formats τ} {provider : ProviderAlert} {s : AlertState τ}

/-- Text, or none: what a valid field has. -/
def Value.IsText (value : Value τ) : Prop := value = .none ∨ exists text, value = .text text

theorem isText_ofText (value : Option String) : (ofText value : Value τ).IsText := by
  cases value with
  | none => exact .inl rfl
  | some text => exact .inr ⟨text, rfl⟩

theorem Value.IsText.timeText {value : Value τ} (h : value.IsText) (format : τ -> String) :
    value.timeText format = value := by
  rcases h with heq | ⟨text, heq⟩
  · rw [heq]
    rfl
  · rw [heq]
    rfl

theorem Value.IsText.str {value : Value τ} (h : value.IsText) : fm.str value = some value := by
  rcases h with heq | ⟨text, heq⟩
  · rw [heq, fm.str_none]
  · rw [heq, fm.str_text]

theorem isText_provider (f : Shown) : (provider.dto.get f : Value τ).IsText := by
  cases f with
  | status => exact .inr ⟨_, rfl⟩
  | assignee => exact isText_ofText provider.assignee
  | note => exact isText_ofText provider.note
  | dismissMode => exact isText_ofText provider.dismissMode
  | dismissedUntil => exact isText_ofText provider.dismissedUntil

theorem isText_attribute (row : LastAlert τ) (f : Shown) :
    ((row.attribute f.key).timeText fm.strftime).IsText := by
  have htext : forall value : Option String,
      ((value.elim Value.none Value.text : Value τ).timeText fm.strftime).IsText := by
    intro value
    cases value with
    | none => exact .inl rfl
    | some text => exact .inr ⟨text, rfl⟩
  cases f with
  | status => exact htext row.status
  | assignee => exact htext row.assignee
  | note => exact htext row.note
  | dismissMode => exact htext row.dismissMode
  | dismissedUntil =>
      show ((row.dismissedUntil.elim Value.none Value.time).timeText fm.strftime).IsText
      cases row.dismissedUntil with
      | none => exact .inl rfl
      | some t => exact .inr ⟨fm.strftime t, rfl⟩

theorem isText_shownBy (row : LastAlert τ) (f : Shown) :
    ((shownBy fm provider row).get f).IsText := by
  rw [get_shownBy]
  rcases @isText_attribute _ fm row f with heq | ⟨text, heq⟩
  · rw [heq]
    exact isText_provider f
  · rw [heq]
    exact .inr ⟨text, rfl⟩

theorem isText_reread {value : Value τ} (h : value.IsText) (f : Shown) :
    (reread f value).IsText := by
  unfold reread
  split
  · exact .inr ⟨_, rfl⟩
  · exact h

theorem AlertState.Follows.isText (hs : s.Follows fm provider) (f : Shown) :
    (s.document.get f).IsText := by
  rw [hs.fields f]
  exact isText_shownBy s.row f

/-- A document that follows its row is read as it is, but for its status. -/
theorem parse_of_follows (hs : s.Follows fm provider) :
    s.document.parse fm =
      (fm.str s.document.dismissUntil).map fun dismissUntil =>
        { s.document with
          status := .text (AlertStatus.ofValue s.document.status).value
          dismissUntil := dismissUntil } := by
  have hassignee := @Value.IsText.str _ fm _ (hs.isText .assignee)
  have hnote := @Value.IsText.str _ fm _ (hs.isText .note)
  have hmode := @Value.IsText.str _ fm _ (hs.isText .dismissMode)
  have huntil := @Value.IsText.str _ fm _ (hs.isText .dismissedUntil)
  simp only [AlertDto.get] at hassignee hnote hmode huntil
  unfold AlertDto.parse
  rw [hassignee, hnote, hmode, huntil]
  cases fm.str s.document.dismissUntil with
  | none => rfl
  | some dismissUntil => rfl

theorem enrichAlert_of_unread (hs : s.Follows fm provider)
    (hread : (fm.str s.document.dismissUntil).isSome = false) (sent : Fields τ) :
    enrichAlert fm s.document sent = none := by
  unfold enrichAlert
  rw [parse_of_follows hs, Option.isSome_eq_false_iff.mp hread |> Option.isNone_iff_eq_none.mp]
  rfl

/-- The fields of a document that is enriched. -/
theorem enrichAlert_of_read (hs : s.Follows fm provider)
    (hread : (fm.str s.document.dismissUntil).isSome = true) (sent : Fields τ) :
    exists document, enrichAlert fm s.document sent = some document ∧
      (forall f, document.get f =
        ((given sent f.key).map (Value.timeText fm.isoformat)).getD
          (reread f (s.document.get f))) ∧
      document.deleted = ((sent.lookup "deleted").getD (.bool false)).truthy := by
  rcases Option.isSome_iff_exists.mp hread with ⟨dismissUntil, huntil⟩
  unfold enrichAlert
  rw [parse_of_follows hs, huntil]
  refine ⟨_, rfl, ?_, rfl⟩
  intro f
  rw [get_indexAlert]
  have hget : AlertDto.get
      { s.document with
        status := .text (AlertStatus.ofValue s.document.status).value
        dismissUntil := dismissUntil } f = reread f (s.document.get f) := by
    cases f with
    | _ => rfl
  rw [hget]
  cases given sent f.key with
  | none => exact (isText_reread (hs.isText f) f).timeText fm.isoformat
  | some value => rfl

end Document

/-!
## One field
-/

section Field

variable {st : Storage τ} {fm : Formats τ} {provider : ProviderAlert} {s : AlertState τ}
  {row' : LastAlert τ} {sent again : Fields τ} {force : Bool} {f : Shown}

theorem storedAs_none (f : Shown) : storedAs st f.key (.none : Value τ) = some .none := by
  cases f with
  | _ => rfl

theorem stored_ne_none {value stored : Value τ} (hvalue : value ≠ .none)
    (h : storedAs st f.key value = some stored) : stored ≠ .none := by
  have htext : (st.nullableText value).map (fun v => v.elim Value.none Value.text) =
      some stored -> stored ≠ .none := by
    intro hstored
    cases value with
    | none => exact absurd rfl hvalue
    | _ =>
        rcases Option.map_eq_some_iff.mp hstored with ⟨v, hv, heq⟩
        rcases Option.map_eq_some_iff.mp hv with ⟨text, _, hsome⟩
        rw [← heq, ← hsome]
        exact fun hnone => by cases hnone
  have htime : (st.nullableTime value).map (fun v => v.elim Value.none Value.time) =
      some stored -> stored ≠ .none := by
    intro hstored
    cases value with
    | none => exact absurd rfl hvalue
    | _ =>
        rcases Option.map_eq_some_iff.mp hstored with ⟨v, hv, heq⟩
        rcases Option.map_eq_some_iff.mp hv with ⟨t, _, hsome⟩
        rw [← heq, ← hsome]
        exact fun hnone => by cases hnone
  cases f with
  | dismissedUntil => exact htime h
  | _ => exact htext h

theorem gives_of_ne_none {stored : Value τ} (h : stored ≠ .none) :
    gives fm provider f stored = stored.timeText fm.strftime := by
  cases stored with
  | none => exact absurd rfl h
  | _ => rfl

theorem written_of_kept {value : Value τ} (h : again.lookup f.key = some value)
    (hkept : skipped force f.key value = false) : written force again f.key = some value := by
  unfold written
  rw [h, Option.filter_some_pos (by simp [hkept])]

theorem not_written_of_skipped {value : Value τ} (h : again.lookup f.key = some value)
    (hskipped : skipped force f.key value = true) : written force again f.key = none := by
  unfold written
  rw [h, Option.filter_some_neg (by simp [hskipped])]

theorem key_eq_note {value : Value τ} (h : skipped force f.key value = true) : f = .note := by
  have hkey := (skipped_iff.mp h).1
  cases f with
  | note => rfl
  | _ => exact absurd hkey (by decide)

section Written

variable (hdistinct : Dict.Distinct again)
  (happly : applyEnrichmentsToLastAlert st force s.row again = .ok row')
include hdistinct happly

/-- A value that is written is given by the row as it is stored. -/
theorem eq_shown_iff (hstorable : Storable st force again) {value shown : Value τ}
    (hwritten : written force again f.key = some value) :
    shown = (shownBy fm provider row').get f <->
      forall stored, storedAs st f.key value = some stored ->
        shown = gives fm provider f stored := by
  rcases Option.isSome_iff_exists.mp (hstorable f.key value hwritten) with ⟨stored, hstored⟩
  rw [shown_of_written hdistinct happly hwritten hstored]
  constructor
  · intro h stored' hstored'
    rw [hstored] at hstored'
    cases hstored'
    exact h
  · intro h
    exact h stored hstored

/-- What a row gives that is not written. -/
theorem shown_unchanged (hs : s.Follows fm provider)
    (hwritten : written force again f.key = none) :
    (shownBy fm provider row').get f = s.document.get f := by
  rw [shown_of_not_written hdistinct happly hwritten, hs.fields f]

variable (hs : s.Follows fm provider) (hstorable : Storable st force again)
include hs hstorable

theorem set_iff {value : Value τ} (hvalue : value ≠ .none)
    (hlookup : again.lookup f.key = some value) :
    value.timeText fm.isoformat = (shownBy fm provider row').get f <->
      if skipped force f.key value = true then
        value.timeText fm.isoformat = s.document.get f
      else
        forall stored, storedAs st f.key value = some stored ->
          value.timeText fm.isoformat = stored.timeText fm.strftime := by
  cases hskipped : skipped force f.key value with
  | true =>
      rw [if_pos rfl, shown_unchanged hdistinct happly hs
        (not_written_of_skipped hlookup hskipped)]
  | false =>
      rw [if_neg Bool.false_ne_true, eq_shown_iff hdistinct happly hstorable
        (written_of_kept hlookup hskipped)]
      constructor
      · intro h stored hstored
        rw [h stored hstored, gives_of_ne_none (stored_ne_none hvalue hstored)]
      · intro h stored hstored
        rw [h stored hstored, gives_of_ne_none (stored_ne_none hvalue hstored)]

theorem arrives_iff (hkeep : forall key value, sent.lookup key = some value ->
      again.lookup key = some value)
    (hnote : again.lookup "note" = sent.lookup "note") :
    ((given sent f.key).map (Value.timeText fm.isoformat)).getD (reread f (s.document.get f)) =
        (shownBy fm provider row').get f <->
      Arrives st fm provider s.document sent again force f := by
  unfold Arrives given
  cases hsent : sent.lookup f.key with
  | none =>
      simp only [Option.map_none, Option.getD_none]
      cases hagain : again.lookup f.key with
      | none =>
          have hwritten : written force again f.key = none := by
            unfold written
            rw [hagain]
            rfl
          simp only
          rw [shown_unchanged hdistinct happly hs hwritten]
      | some value =>
          simp only
          refine eq_shown_iff hdistinct happly hstorable (written_of_kept hagain ?_)
          cases hskipped : skipped force f.key value with
          | false => rfl
          | true =>
              rw [key_eq_note hskipped] at hsent hagain
              have hlookup := hagain.symm.trans (hnote.trans hsent)
              cases hlookup
  | some value =>
      have hagain := hkeep _ _ hsent
      cases value with
      | none =>
          simp only [Option.map_none, Option.getD_none]
          cases hskipped : skipped force f.key (Value.none : Value τ) with
          | true =>
              rw [shown_unchanged hdistinct happly hs
                (not_written_of_skipped hagain hskipped), key_eq_note hskipped]
              exact iff_of_true rfl (.inl rfl)
          | false =>
              rw [eq_shown_iff hdistinct happly hstorable (written_of_kept hagain hskipped),
                storedAs_none]
              constructor
              · intro h
                exact .inr (h .none rfl)
              · intro h stored hstored
                cases hstored
                rcases h with hfalse | h
                · cases hfalse
                · exact h
      | _ => exact set_iff hdistinct happly hs hstorable (fun h => by cases h) hagain

end Written

end Field

/-!
## Calls
-/

section Calls

open Run

variable {st : Storage τ} {fm : Formats τ} {provider : ProviderAlert} {s : AlertState τ}
  {row' : LastAlert τ} {sent again : Fields τ} {force : Bool}

theorem follows_iff_fields (document : AlertDto τ) (row : LastAlert τ) :
    AlertState.Follows fm provider ⟨row, document⟩ <->
      (forall f, document.get f = (shownBy fm provider row).get f) ∧
        document.deleted = row.deleted := by
  constructor
  · intro h
    exact ⟨h.fields, h.deleted.trans (shownBy_deleted row)⟩
  · intro ⟨hfields, hdeleted⟩
    exact ⟨hfields, hdeleted.trans (shownBy_deleted row).symm⟩

section Written

variable (hdistinct : Dict.Distinct again)
  (happly : applyEnrichmentsToLastAlert st force s.row again = .ok row')
  (hs : s.Follows fm provider) (hstorable : Storable st force again)
include hdistinct happly hs hstorable

/-- A document that is not indexed anew. -/
theorem unseen_iff :
    AlertState.Follows fm provider ⟨row', s.document⟩ <->
      Unseen st fm provider s.document again force := by
  have hdeleted := hs.deleted.trans (shownBy_deleted s.row)
  rw [follows_iff_fields, deleted_applied hdistinct happly, ← hdeleted]
  refine and_congr ?_ ?_
  · constructor
    · intro h f value stored hwritten hstored
      exact ((eq_shown_iff hdistinct happly hstorable hwritten).mp (h f) stored hstored).symm
    · intro h f
      cases hwritten : written force again f.key with
      | none => exact (shown_unchanged hdistinct happly hs hwritten).symm
      | some value =>
          refine (eq_shown_iff hdistinct happly hstorable hwritten).mpr ?_
          intro stored hstored
          exact (h f value stored hwritten hstored).symm
  · cases again.lookup "deleted" with
    | none => exact iff_of_true rfl fun _ h => (by cases h)
    | some value =>
        constructor
        · intro h value' hvalue'
          cases hvalue'
          exact h.symm
        · intro h
          exact (h value rfl).symm

/-- A document that is indexed with the enrichments. -/
theorem indexed_iff {document : AlertDto τ}
    (hfields : forall f, document.get f =
      ((given sent f.key).map (Value.timeText fm.isoformat)).getD (reread f (s.document.get f)))
    (hflag : document.deleted = ((sent.lookup "deleted").getD (.bool false)).truthy)
    (hkeep : forall key value, sent.lookup key = some value -> again.lookup key = some value)
    (hsame : again.lookup "note" = sent.lookup "note")
    (hdeleted : again.lookup "deleted" = sent.lookup "deleted") :
    AlertState.Follows fm provider ⟨row', document⟩ <->
      (forall f, Arrives st fm provider s.document sent again force f) ∧
        (sent.lookup "deleted" = none -> s.row.deleted = false) := by
  rw [follows_iff_fields, deleted_applied hdistinct happly, hdeleted, hflag]
  refine and_congr ?_ ?_
  · refine forall_congr' fun f => ?_
    rw [hfields f]
    exact arrives_iff hdistinct happly hs hstorable hkeep hsame
  · cases sent.lookup "deleted" with
    | none => exact ⟨fun h _ => h.symm, fun h => (h rfl).symm⟩
    | some value => exact iff_of_true rfl fun h => (by cases h)

end Written

/-- A call that writes nothing leaves everything as it is. -/
theorem enrichRow_of_not_storable {strict : Bool}
    (hagain : normalizeEnrichments sent strict = .ok again) (hdistinct : Dict.Distinct again)
    (hstorable : ¬ Storable st force again) (row : LastAlert τ) :
    exists failure, enrichRow st (some row) sent force strict = .error failure := by
  unfold enrichRow
  rw [hagain]
  cases happly : applyEnrichmentsToLastAlert st force row again with
  | error failure =>
      refine ⟨failure, ?_⟩
      show (applyEnrichmentsToLastAlert st force row again >>= _) = _
      rw [happly]
      rfl
  | ok row' => exact absurd ((applyEnrichments_ok_iff hdistinct row).mp ⟨row', happly⟩) hstorable

theorem enrichRow_of_applied {strict : Bool} {row : LastAlert τ}
    (hagain : normalizeEnrichments sent strict = .ok again)
    (happly : applyEnrichmentsToLastAlert st force row again = .ok row') :
    enrichRow st (some row) sent force strict = .ok (some row') := by
  unfold enrichRow
  rw [hagain]
  show (applyEnrichmentsToLastAlert st force row again >>= _) = _
  rw [happly]
  rfl

/-- After a call the document follows the row exactly where the call is safe. -/
theorem call_follows_iff (hs : s.Follows fm provider) (c : EnrichCall τ) :
    (s.call st fm c).Follows fm provider <-> s.Safe st fm provider c := by
  unfold AlertState.Safe AlertState.call
  cases hsent : normalizedForm c.enrichments.fields c.disposeOnNewAlert c.strict with
  | error failure => exact iff_of_true hs fun _ _ h => (by cases h)
  | ok sent =>
      simp only
      cases hagain : normalizeEnrichments sent c.strict with
      | error failure =>
          have hrow : enrichRow st (some s.row) sent c.force c.strict = .error failure := by
            unfold enrichRow
            rw [hagain]
            rfl
          rw [hrow]
          refine iff_of_true hs ?_
          intro sent' again' hsent' hagain'
          cases hsent'
          rw [hagain] at hagain'
          cases hagain'
      | ok again =>
          have hdistinct := distinct_normalized (distinct_normalized
            (distinct_applyDisposeOnNewAlert c.enrichments.distinct c.disposeOnNewAlert) hsent)
            hagain
          have honly : forall {p : Fields τ -> Fields τ -> Prop},
              (forall sent' again', (Except.ok sent : Except Failure (Fields τ)) = .ok sent' ->
                normalizeEnrichments sent' c.strict = .ok again' -> p sent' again') <->
                  p sent again := by
            intro p
            constructor
            · intro h
              exact h sent again rfl hagain
            · intro h sent' again' hsent' hagain'
              cases hsent'
              rw [hagain] at hagain'
              cases hagain'
              exact h
          rw [honly]
          rcases Classical.em (Storable st c.force again) with hstorable | hstorable
          · rcases (applyEnrichments_ok_iff hdistinct s.row).mpr hstorable with ⟨row', happly⟩
            rw [enrichRow_of_applied hagain happly]
            simp only [hstorable, true_implies]
            cases hpublished : c.published with
            | false =>
                simp only [Bool.false_eq_true, if_false, false_and]
                exact unseen_iff hdistinct happly hs hstorable
            | true =>
                cases hread : (fm.str s.document.dismissUntil).isSome with
                | false =>
                    simp only [Bool.false_eq_true, if_false, and_false, if_true]
                    rw [enrichAlert_of_unread hs hread]
                    exact unseen_iff hdistinct happly hs hstorable
                | true =>
                    simp only [and_self, if_true]
                    rcases enrichAlert_of_read hs hread sent with
                      ⟨document, hdocument, hfields, hflag⟩
                    rw [hdocument]
                    refine indexed_iff hdistinct happly hs hstorable hfields hflag ?_ ?_ ?_
                    · exact fun key value h => lookup_again hsent hagain h
                    · exact lookup_again_eq hagain (by decide) (by decide)
                    · exact lookup_again_eq hagain (by decide) (by decide)
          · rcases enrichRow_of_not_storable hagain hdistinct hstorable s.row with
              ⟨failure, hrow⟩
            rw [hrow]
            exact iff_of_true hs fun h => absurd h hstorable

variable (st fm provider) in
/-- The document follows the row after every call of a sequence. -/
def FollowsThroughout (s : AlertState τ) (calls : List (EnrichCall τ)) : Prop :=
  Along (fun s c => some (AlertState.call st fm s c))
    (fun s c => (s.call st fm c).Follows fm provider) s calls

variable (st fm provider) in
/-- Every call of a sequence is safe at the state before it. -/
def EnrichedSafely (s : AlertState τ) (calls : List (EnrichCall τ)) : Prop :=
  Along (fun s c => some (AlertState.call st fm s c))
    (fun s c => s.Safe st fm provider c) s calls

/-- A document follows its row throughout exactly where each call is safe. -/
theorem followsThroughout_iff (hs : s.Follows fm provider) (calls : List (EnrichCall τ)) :
    FollowsThroughout st fm provider s calls <-> EnrichedSafely st fm provider s calls := by
  have hstep : forall (s : AlertState τ) (c : EnrichCall τ) (s' : AlertState τ),
      s.Follows fm provider -> s.Safe st fm provider c -> some (s.call st fm c) = some s' ->
        s'.Follows fm provider := by
    intro s c s' hs hsafe hcall
    cases hcall
    exact (call_follows_iff hs c).mpr hsafe
  exact along_iff_along (fun s c hs => call_follows_iff hs c) hstep hs calls

end Calls

namespace DocumentSample

def formats : Formats String where
  isoformat := fun t => t ++ "+00:00"
  strftime := fun t => t ++ ".000Z"
  str
    | .none => some .none
    | .text s => some (.text s)
    | .number n => some (.text (toString n))
    | _ => none
  str_none := rfl
  str_text := fun _ => rfl

def provider : ProviderAlert := ⟨.firing, none, none, none, none, none, false⟩

/-- An alert that is not enriched yet. -/
def fresh : AlertState String :=
  ⟨newLastAlert (sampleAlert 1 "firing"), provider.dto⟩

theorem fresh_follows : fresh.Follows formats provider where
  fields := fun f => (by cases f with | _ => rfl)
  deleted := rfl

def assigned (assignee : Value String) : EnrichCall String where
  enrichments := ⟨[("assignee", assignee)], by simp [Dict.Distinct]⟩
  disposeOnNewAlert := false
  force := false
  strict := true
  published := true

end DocumentSample

open DocumentSample in
/-- An assignee that is set arrives. -/
theorem assigned_followsThroughout :
    FollowsThroughout textStorage formats provider fresh [assigned (.text "bob")] := by
  refine (followsThroughout_iff fresh_follows [assigned (.text "bob")]).mpr ⟨?_, ?_⟩
  · intro sent again hsent hagain _
    cases hsent
    cases hagain
    rw [if_pos ⟨rfl, rfl⟩]
    refine ⟨?_, fun _ => rfl⟩
    intro f
    cases f with
    | assignee =>
        intro stored hstored
        cases hstored
        rfl
    | _ => rfl
  · exact fun _ _ => trivial

open DocumentSample in
/-- An assignee that is set and cleared stays in the document. -/
theorem unassigned_not_followsThroughout :
    ¬ forall (st : Storage String) (fm : Formats String) (provider : ProviderAlert)
        (s : AlertState String) (calls : List (EnrichCall String)),
      s.Follows fm provider -> FollowsThroughout st fm provider s calls := by
  intro h
  rcases h textStorage formats provider fresh [assigned (.text "bob"), assigned .none]
    fresh_follows with ⟨_, hafter⟩
  have hassignee := (hafter _ rfl).1.fields .assignee
  have hdocument : Value.text "bob" = (Value.none : Value String) := hassignee
  cases hdocument

end Enrichments
end KeepGateway
