import KeepGateway.Enrichments.Conversion
import KeepGateway.Lib.Calendar

/-!
# Enrichments that are read back

What a row holds after enrichments, by the requests alone, and what the DTO of its alert shows of
it.
-/

namespace KeepGateway
namespace Enrichments
namespace ReadBack

open Calendar Conversion

/-!
## Requests
-/

structure Request (τ : Type) where
  enrichments : EnrichmentDict τ
  disposeOnNewAlert : Bool
  force : Bool
  strict : Bool

section Requests

variable {τ : Type}

/-- `EnrichmentsBl.enrich_entity` on a row that there is. -/
def Request.enrich (storage : Storage τ) (row : LastAlert τ) (request : Request τ) :
    Except Failure (Option (LastAlert τ)) :=
  enrichEntity storage (some row) request.enrichments.fields request.disposeOnNewAlert
    request.force request.strict

/-- The requests are accepted, one after the other. -/
def Accepted (storage : Storage τ) : LastAlert τ -> List (Request τ) -> LastAlert τ -> Prop
  | row, [], after => after = row
  | row, request :: rest, after =>
      exists next, request.enrich storage row = .ok (some next) ∧ Accepted storage next rest after

/-- The enrichments as they reach the columns: the business layer normalizes them, and the
database layer again. -/
def Request.normalized (request : Request τ) : Except Failure (Fields τ) := do
  let normalized <- normalizedForm request.enrichments.fields request.disposeOnNewAlert
    request.strict
  normalizeEnrichments normalized request.strict

/-- What an attribute holds after a request that is accepted. -/
def Request.heldAfter (storage : Storage τ) (key : String) (value : Value τ)
    (request : Request τ) : Value τ :=
  match request.normalized with
  | .ok e => ((written request.force e key).bind (storedAs storage key)).getD value
  | .error _ => value

end Requests

/-!
## Reading
-/

/-- The fields of a DTO that a user enriches. -/
inductive Field where
  | status
  | assignee
  | note
  | dismissMode
  | dismissedUntil
  | deleted
  | ticketType
  | ticketUrl
  | ticketProviderId
  deriving DecidableEq, Repr

def Field.key : Field -> String
  | status => "status"
  | assignee => "assignee"
  | note => "note"
  | dismissMode => "dismiss_mode"
  | dismissedUntil => "dismissed_until"
  | deleted => "deleted"
  | ticketType => "ticket_type"
  | ticketUrl => "ticket_url"
  | ticketProviderId => "ticket_provider_id"

def shown (dto : Conversion.AlertDto Instant) : Field -> Value Instant
  | .status => .text dto.status
  | .assignee => dto.assignee
  | .note => dto.note
  | .dismissMode => dto.dismissMode
  | .dismissedUntil => dto.dismissedUntil
  | .deleted => .bool dto.deleted
  | .ticketType => dto.ticketType
  | .ticketUrl => dto.ticketUrl
  | .ticketProviderId => dto.ticketProviderId

/-- What a field has where no user set it: the provider's value, or none. -/
def unset (alert : AlertRow) : Field -> Value Instant
  | .status => ofText alert.status
  | .deleted => .bool false
  | _ => .none

/-- The text of a timestamp in UTC, as both of the converting functions write it. -/
def utc (fm : Formats Instant) : Formats Instant := { fm with strftime := Instant.utcText }

/-- The DTO shows what the row holds, and agrees with the dictionary of the row. -/
structure ShowsRow (fm : Formats Instant) (alert : AlertRow) (row : LastAlert Instant)
    (dto : Conversion.AlertDto Instant) : Prop where
  held : forall f, f ≠ .dismissedUntil ->
    shown dto f = (row.attribute f.key).orElse (unset alert f)
  unlimited : row.dismissedUntil = none -> dto.dismissedUntil = .none
  instant : forall t, row.dismissedUntil = some t -> exists text, dto.dismissedUntil = .text text ∧
    readUtc text = some (t.microseconds / 1000 * 1000)
  dict : forall f,
    shown dto f = ((lastAlertEnrichmentsDict (utc fm) row).lookup f.key).getD (unset alert f)

/-- An alert whose row is enriched. -/
structure EnrichedAlert where
  storage : Storage Instant
  row : LastAlert Instant
  requests : List (Request Instant)
  after : LastAlert Instant
  accepted : Accepted storage row requests after
  alert : AlertRow
  startedAt : Option String
  attached : Bool

namespace EnrichedAlert

/-- What an attribute holds after the requests. -/
def held (run : EnrichedAlert) (key : String) : Value Instant :=
  run.requests.foldl (Request.heldAfter run.storage key) (run.row.attribute key)

/-- The query attaches the row, or the conversion fetches it. -/
def queried (run : EnrichedAlert) : QueriedAlert Instant where
  alert := run.alert
  lastAlert := if run.attached = true then some run.after else none
  startedAt := run.startedAt

def dtos (fm : Formats Instant) (now : Instant) (run : EnrichedAlert) :
    List (Conversion.AlertDto Instant) :=
  convertDbAlertsToDtoAlerts (utc fm) now [(run.alert.key, run.after)] [run.queried]

/-- The enrichments read back as they were written. -/
def ReadsBack (fm : Formats Instant) (now : Instant) (run : EnrichedAlert) : Prop :=
  exists dto, run.dtos fm now = [dto] ∧ ShowsRow fm run.alert run.after dto

end EnrichedAlert

/-!
## Rows
-/

section Rows

variable {τ : Type} {storage : Storage τ} {row next : LastAlert τ} {request : Request τ}

theorem isSome_lookup_attributes {key : String} (hkey : key ∈ enrichmentColumns)
    (row : LastAlert τ) : (row.attributes.lookup key).isSome = true := by
  have hkeys : row.attributes.map Prod.fst = enrichmentColumns := rfl
  cases hlookup : row.attributes.lookup key with
  | none =>
      rw [Dict.lookup_eq_none, hkeys] at hlookup
      exact absurd hkey hlookup
  | some value => rfl

/-- A column holds what was written to it last. -/
theorem attribute_enrich (h : request.enrich storage row = .ok (some next)) {key : String}
    (hkey : key ∈ enrichmentColumns) :
    next.attribute key = request.heldAfter storage key (row.attribute key) := by
  rcases bind_eq_ok.mp h with ⟨normalized, hnormalized, hrow⟩
  rcases bind_eq_ok.mp hrow with ⟨again, hagain, happly⟩
  rcases bind_eq_ok.mp happly with ⟨after, hafter, hnext⟩
  cases hnext
  have hdistinct : Dict.Distinct again :=
    distinct_normalized
      (distinct_normalized
        (distinct_applyDisposeOnNewAlert request.enrichments.distinct request.disposeOnNewAlert)
        hnormalized) hagain
  have hrequest : request.normalized = .ok again :=
    bind_eq_ok.mpr ⟨normalized, hnormalized, hagain⟩
  have hlookup := lookup_applyEnrichments hdistinct hafter key
  unfold Request.heldAfter LastAlert.attribute
  rw [hrequest]
  show (next.attributes.lookup key).getD .none =
    ((written request.force again key).bind (storedAs storage key)).getD _
  cases hwritten : written request.force again key with
  | none =>
      rw [hlookup, hwritten]
      rfl
  | some value =>
      rw [hwritten] at hlookup
      have hstored : (storedAs storage key value).isSome = true := by
        rw [← Option.elim_some (row.attributes.lookup key) (storedAs storage key) value, ← hlookup]
        exact isSome_lookup_attributes hkey next
      rcases Option.isSome_iff_exists.mp hstored with ⟨stored, hstored⟩
      rw [hlookup, Option.elim_some, Option.bind_some, hstored]
      rfl

theorem attribute_accepted {requests : List (Request τ)} {after : LastAlert τ}
    (h : Accepted storage row requests after) {key : String} (hkey : key ∈ enrichmentColumns) :
    after.attribute key =
      requests.foldl (Request.heldAfter storage key) (row.attribute key) := by
  induction requests generalizing row with
  | nil =>
      rw [h]
      rfl
  | cons request rest ih =>
      rcases h with ⟨next, hnext, hrest⟩
      rw [List.foldl_cons, ih hrest, attribute_enrich hnext hkey]

end Rows

/-!
## Fields
-/

section Fields

variable {fm : Formats Instant} {now : Instant} {queried : QueriedAlert Instant}
  {row : LastAlert Instant}

/-- What a field is to show. -/
def expected (alert : AlertRow) (row : LastAlert Instant) : Field -> Value Instant
  | .dismissedUntil => ofText (row.dismissedUntil.map Instant.utcText)
  | f => (row.attribute f.key).orElse (unset alert f)

theorem getD_map_orElse (column : Option String) (otherwise : Value Instant) :
    ((some (column.map Value.text)).join).getD otherwise = (ofText column).orElse otherwise := by
  cases column with
  | none => rfl
  | some text => rfl

/-- The dictionary of the row has every field. -/
theorem lookup_dict (fm : Formats Instant) (alert : AlertRow) (row : LastAlert Instant)
    (f : Field) :
    ((lastAlertEnrichmentsDict (utc fm) row).lookup f.key).getD (unset alert f) =
      expected alert row f := by
  unfold lastAlertEnrichmentsDict
  rw [Dict.lookup_present (by simp [Dict.Distinct])]
  cases f with
  | status => exact getD_map_orElse row.status (ofText alert.status)
  | assignee => exact getD_map_orElse row.assignee .none
  | note => exact getD_map_orElse row.note .none
  | dismissMode => exact getD_map_orElse row.dismissMode .none
  | ticketType => exact getD_map_orElse row.ticketType .none
  | ticketUrl => exact getD_map_orElse row.ticketUrl .none
  | ticketProviderId => exact getD_map_orElse row.ticketProviderId .none
  | dismissedUntil =>
      show ((some (row.dismissedUntil.map fun t => Value.text t.utcText)).join).getD .none =
        ofText (row.dismissedUntil.map Instant.utcText)
      cases row.dismissedUntil with
      | none => rfl
      | some t => rfl
  | deleted =>
      show ((some (if row.deleted = true then some (Value.bool true) else none)).join).getD
        (Value.bool false) = Value.bool row.deleted
      cases row.deleted with
      | false => rfl
      | true => rfl

theorem orElse_none (value : Value Instant) : value.orElse .none = value := by
  cases value with
  | _ => rfl

/-- A status is shown as it is where it is one of the statuses. -/
theorem text_ofValue_iff (value : Value Instant) :
    .text (AlertStatus.ofValue value).value = value <->
      exists status : AlertStatus, value = .text status.value := by
  constructor
  · intro h
    exact ⟨AlertStatus.ofValue value, h.symm⟩
  · intro h
    rcases h with ⟨status, hstatus⟩
    rw [hstatus, ofValue_value]

theorem shown_status_iff :
    shown (dtoOf (utc fm) now queried (some row)) .status = expected queried.alert row .status <->
      exists status : AlertStatus,
        (row.attribute "status").orElse (ofText queried.alert.status) = .text status.value := by
  have hexpected : (row.attribute "status").orElse (ofText queried.alert.status) =
      ofText (row.status.or queried.alert.status) := by
    show (ofText row.status).orElse _ = _
    cases row.status with
    | none => rfl
    | some text => rfl
  show .text (dtoOf (utc fm) now queried (some row)).status =
    (row.attribute "status").orElse (ofText queried.alert.status) <-> _
  rw [status_dtoOf, hexpected]
  exact text_ofValue_iff (ofText (row.status.or queried.alert.status))

/-- The DTO shows no ticket. -/
theorem shown_ticket_iff {f : Field} (h : f ∈ [Field.ticketType, .ticketUrl, .ticketProviderId]) :
    shown (dtoOf (utc fm) now queried (some row)) f = expected queried.alert row f <->
      row.attribute f.key = .none := by
  have hticket := ticket_dtoOf (utc fm) now queried row
  simp only [List.mem_cons, List.not_mem_nil, or_false] at h
  rcases h with heq | heq | heq
  · rw [heq]
    show (dtoOf (utc fm) now queried (some row)).ticketType = (row.attribute _).orElse .none <-> _
    rw [hticket.1, orElse_none]
    exact eq_comm
  · rw [heq]
    show (dtoOf (utc fm) now queried (some row)).ticketUrl = (row.attribute _).orElse .none <-> _
    rw [hticket.2.1, orElse_none]
    exact eq_comm
  · rw [heq]
    show (dtoOf (utc fm) now queried (some row)).ticketProviderId =
      (row.attribute _).orElse .none <-> _
    rw [hticket.2.2, orElse_none]
    exact eq_comm

theorem shown_eq_expected {f : Field} (hstatus : f ≠ .status)
    (hticket : f ∉ [Field.ticketType, .ticketUrl, .ticketProviderId]) :
    shown (dtoOf (utc fm) now queried (some row)) f = expected queried.alert row f := by
  have htexts := texts_dtoOf (utc fm) now queried row
  cases f with
  | assignee => exact htexts.1.trans (orElse_none (ofText row.assignee)).symm
  | note => exact htexts.2.1.trans (orElse_none (ofText row.note)).symm
  | dismissMode => exact htexts.2.2.1.trans (orElse_none (ofText row.dismissMode)).symm
  | dismissedUntil => exact htexts.2.2.2
  | deleted => exact congrArg Value.bool (deleted_dtoOf (utc fm) now queried row)
  | status => exact absurd rfl hstatus
  | ticketType => exact absurd List.mem_cons_self hticket
  | ticketUrl => exact absurd (List.mem_cons_of_mem _ List.mem_cons_self) hticket
  | ticketProviderId =>
      exact absurd (List.mem_cons_of_mem _ (List.mem_cons_of_mem _ List.mem_cons_self)) hticket

/-- The DTO can show what the attributes hold: no ticket, and a status that is one. -/
structure Showable (alert : AlertRow) (held : String -> Value Instant) : Prop where
  ticket : forall f, f ∈ [Field.ticketType, .ticketUrl, .ticketProviderId] ->
    held f.key = .none
  status : exists status : AlertStatus,
    (held "status").orElse (ofText alert.status) = .text status.value

theorem showable_congr {alert : AlertRow} {held other : String -> Value Instant}
    (h : forall key, key ∈ enrichmentColumns -> held key = other key) :
    Showable alert held <-> Showable alert other := by
  have hticket : forall f, f ∈ [Field.ticketType, .ticketUrl, .ticketProviderId] ->
      held f.key = other f.key := by
    intro f hf
    apply h
    simp only [List.mem_cons, List.not_mem_nil, or_false] at hf
    rcases hf with heq | heq | heq
    all_goals
      rw [heq]
      decide
  have hstatus : held "status" = other "status" := h "status" List.mem_cons_self
  constructor
  · intro hshow
    exact ⟨fun f hf => (hticket f hf).symm.trans (hshow.ticket f hf), hstatus ▸ hshow.status⟩
  · intro hshow
    exact ⟨fun f hf => (hticket f hf).trans (hshow.ticket f hf), hstatus ▸ hshow.status⟩

theorem shown_all_iff :
    (forall f, shown (dtoOf (utc fm) now queried (some row)) f = expected queried.alert row f) <->
      Showable queried.alert row.attribute := by
  constructor
  · intro h
    exact ⟨fun f hf => (shown_ticket_iff hf).mp (h f), shown_status_iff.mp (h .status)⟩
  · intro h f
    rcases Classical.em (f ∈ [Field.ticketType, .ticketUrl, .ticketProviderId]) with hf | hf
    · exact (shown_ticket_iff hf).mpr (h.ticket f hf)
    · rcases Classical.em (f = .status) with hstatus | hstatus
      · rw [hstatus]
        exact shown_status_iff.mpr h.status
      · exact shown_eq_expected hstatus hf

theorem showsRow_iff :
    ShowsRow fm queried.alert row (dtoOf (utc fm) now queried (some row)) <->
      Showable queried.alert row.attribute := by
  have huntil : (dtoOf (utc fm) now queried (some row)).dismissedUntil =
      ofText (row.dismissedUntil.map Instant.utcText) := (texts_dtoOf (utc fm) now queried row).2.2.2
  rw [← @shown_all_iff fm now queried row]
  constructor
  · intro h f
    rw [h.dict f, lookup_dict]
  · intro h
    refine ⟨fun f hf => ?_, fun hnone => ?_, fun t ht => ?_, fun f => ?_⟩
    · rw [h f]
      cases f with
      | dismissedUntil => exact absurd rfl hf
      | _ => rfl
    · rw [huntil, hnone]
      rfl
    · rw [huntil, ht]
      exact ⟨t.utcText, rfl, t.readUtc_utcText⟩
    · rw [h f, lookup_dict]

end Fields

/-!
## Reading back
-/

theorem EnrichedAlert.dtos_eq (fm : Formats Instant) (now : Instant) (run : EnrichedAlert) :
    run.dtos fm now = [dtoOf (utc fm) now run.queried (some run.after)] := by
  have hattached : run.queried.lastAlert = none ∨ run.queried.lastAlert = some run.after := by
    unfold EnrichedAlert.queried
    cases run.attached with
    | false => exact Or.inl rfl
    | true => exact Or.inr rfl
  exact convert_single (utc fm) now hattached

/-- Enrichments read back but for tickets and for statuses that are none. -/
theorem readsBack_iff (fm : Formats Instant) (now : Instant) (run : EnrichedAlert) :
    run.ReadsBack fm now <-> Showable run.alert run.held := by
  have hheld : Showable run.alert run.after.attribute <-> Showable run.alert run.held :=
    showable_congr fun key hkey => attribute_accepted run.accepted hkey
  have hshows : ShowsRow fm run.alert run.after (dtoOf (utc fm) now run.queried (some run.after)) <->
      Showable run.alert run.after.attribute := @showsRow_iff fm now run.queried run.after
  rw [← hheld, ← hshows]
  unfold EnrichedAlert.ReadsBack
  rw [run.dtos_eq fm now]
  constructor
  · intro h
    rcases h with ⟨dto, hdto, hrow⟩
    rw [(List.cons.inj hdto).1]
    exact hrow
  · intro h
    exact ⟨_, rfl, h⟩

namespace TicketSample

/-- A database that takes what is of the type of the column. -/
def storage : Storage Instant where
  text
    | .text s => some s
    | _ => none
  time
    | .time t => some t
    | _ => none
  flag
    | .bool b => some b
    | _ => none
  flag_truthy := by
    intro v b h
    cases v with
    | bool b' =>
        cases h
        rfl
    | _ => cases h

def row : LastAlert Instant := newLastAlert ⟨1, 1, none, some "firing"⟩

def request : Request Instant where
  enrichments := ⟨[("ticket_url", .text "https://tickets/1")], List.nodup_singleton _⟩
  disposeOnNewAlert := false
  force := false
  strict := true

/-- A firing alert that is assigned a ticket. -/
def run : EnrichedAlert where
  storage := storage
  row := row
  requests := [request]
  after := { row with ticketUrl := some "https://tickets/1" }
  accepted := ⟨_, rfl, rfl⟩
  alert := ⟨"tenant", "a", "1", "grafana", none, some "disk full", some "firing", none, "production"⟩
  startedAt := none
  attached := true

end TicketSample

open TicketSample in
theorem ticket_not_readsBack :
    ¬ forall (fm : Formats Instant) (now : Instant) (run : EnrichedAlert), run.ReadsBack fm now := by
  intro h
  have now : Instant := ⟨0, Nat.zero_lt_succ _⟩
  have fm : Formats Instant := ⟨Instant.utcText, Instant.utcText, some, rfl, fun _ => rfl⟩
  rcases h fm now run with ⟨dto, hdto, hshows⟩
  have hnone : dto.ticketUrl = .none := by
    have hurl : (run.dtos fm now).map Conversion.AlertDto.ticketUrl = [.none] := rfl
    rw [hdto] at hurl
    exact (List.cons.inj hurl).1
  have hheld := hshows.held .ticketUrl (by decide)
  have hticket : dto.ticketUrl = .text "https://tickets/1" := hheld
  rw [hnone] at hticket
  cases hticket

end ReadBack
end Enrichments
end KeepGateway
