import KeepGateway.Enrichments.IncidentEnrichment
import Mathlib.Data.List.Induction

/-!
# The merge law of incident enrichments

What a sequence of enrichments is meant to leave in the document, and the
sequences that do leave it there.  The first call stores its dictionary as it is,
keys given as None included, and a note given as None removes the one that the
note guard has just put back.
-/

namespace KeepGateway
namespace Enrichments

/-!
## The law
-/

/-- New keys overwrite, a key given as None is absent, and a blank note leaves a note
that is there. -/
def lawStep (values : Values) (e : Document) : Values := fun key =>
  if key = "note" ∧ isBlankNote (e.lookup "note") = true ∧
      isKeptNote (values "note") = true then
    values "note"
  else
    match e.lookup key with
    | some .null => none
    | some value => some value
    | none => values key

def law (calls : List IncidentDict) : Values :=
  calls.foldl (fun values e => lawStep values e.fields) fun _ => none

theorem law_snoc (calls : List IncidentDict) (e : IncidentDict) :
    law (calls ++ [e]) = lawStep (law calls) e.fields := by
  unfold law
  rw [List.foldl_append]
  rfl

theorem law_singleton (e : IncidentDict) (key : String) :
    law [e] key = if e.fields.lookup key = some .null then none else e.fields.lookup key := by
  have hstep : law [e] key = lawStep (fun _ => none) e.fields key := rfl
  rw [hstep]
  unfold lawStep
  rw [if_neg (by simp [isKeptNote])]
  cases e.fields.lookup key with
  | none => rfl
  | some value => cases value <;> rfl

/-!
## Runs
-/

/-- An incident of a tenant that no enrichment has been stored for yet. -/
structure Incident where
  db : IncidentTables
  tenantId : String
  incidentId : Nat
  insertable : db.Insertable incidentId

/-- The tables after non-forced calls on the incident. -/
def afterEnrichments (str : Nat -> String) (action : Action) (i : Incident)
    (calls : List IncidentDict) : IncidentTables :=
  calls.foldl
    (fun db e => enrichIncident str db i.tenantId i.incidentId e.fields false action) i.db

/-- The values of the stored document; without a row there are none. -/
def stored (str : Nat -> String) (action : Action) (i : Incident)
    (calls : List IncidentDict) : Values := fun key =>
  ((afterEnrichments str action i calls).find i.tenantId i.incidentId).bind
    fun row => row.enrichments.lookup key

variable {str : Nat -> String} {action : Action} {i : Incident}

theorem Incident.find_eq_none (i : Incident) : i.db.find i.tenantId i.incidentId = none := by
  apply List.find?_eq_none.mpr
  intro row hrow hmatch
  simp only [Bool.and_eq_true, beq_iff_eq] at hmatch
  exact i.insertable.2 (List.mem_map.mpr ⟨row, hrow, hmatch.2⟩)

theorem afterEnrichments_snoc (calls : List IncidentDict) (e : IncidentDict) :
    afterEnrichments str action i (calls ++ [e]) =
      enrichIncident str (afterEnrichments str action i calls) i.tenantId i.incidentId e.fields
        false action := by
  unfold afterEnrichments
  rw [List.foldl_append]
  rfl

/-- The first call stores its dictionary. -/
theorem find_first (e : IncidentDict) :
    (afterEnrichments str action i [e]).find i.tenantId i.incidentId =
      some ⟨i.tenantId, i.incidentId, e.fields⟩ := by
  show (enrichIncident str i.db i.tenantId i.incidentId e.fields false action).find
    i.tenantId i.incidentId = _
  unfold enrichIncident
  rw [i.find_eq_none]
  simp only [i.insertable, dif_pos, IncidentTables.find_addAudits]
  exact IncidentTables.find_insert i.db ⟨i.tenantId, i.incidentId, e.fields⟩ i.insertable

/-- Every later call merges. -/
theorem find_later {calls : List IncidentDict} {row : IncidentEnrichment}
    (hrow : (afterEnrichments str action i calls).find i.tenantId i.incidentId = some row)
    (e : IncidentDict) :
    (afterEnrichments str action i (calls ++ [e])).find i.tenantId i.incidentId =
      some { row with enrichments := mergeEnrichments row.enrichments e.fields } := by
  rw [afterEnrichments_snoc]
  unfold enrichIncident
  rw [hrow]
  exact IncidentTables.find_write_self hrow _

theorem exists_row (calls : List IncidentDict) (hne : calls ≠ []) :
    exists row, (afterEnrichments str action i calls).find i.tenantId i.incidentId = some row := by
  induction calls using List.reverseRecOn with
  | nil => exact absurd rfl hne
  | append_singleton before e ih =>
      cases before with
      | nil => exact ⟨_, find_first e⟩
      | cons first rest =>
          rcases ih (List.cons_ne_nil first rest) with ⟨row, hrow⟩
          exact ⟨_, find_later hrow e⟩

theorem stored_nil : stored str action i [] = fun _ => none := by
  funext key
  show (i.db.find i.tenantId i.incidentId).bind _ = _
  rw [i.find_eq_none]
  rfl

theorem stored_first (e : IncidentDict) :
    stored str action i [e] = fun key => e.fields.lookup key := by
  funext key
  unfold stored
  rw [find_first]
  rfl

theorem stored_later {calls : List IncidentDict} (hne : calls ≠ []) (e : IncidentDict)
    (key : String) :
    stored str action i (calls ++ [e]) key =
      if e.fields.lookup key = some .null then none
      else if key = "note" ∧ isBlankNote (e.fields.lookup "note") = true ∧
          isKeptNote (stored str action i calls "note") = true then
        stored str action i calls "note"
      else (e.fields.lookup key).or (stored str action i calls key) := by
  have hexists : exists row,
      (afterEnrichments str action i calls).find i.tenantId i.incidentId = some row :=
    exists_row calls hne
  rcases hexists with ⟨row, hrow⟩
  unfold stored
  rw [find_later hrow e, hrow]
  exact lookup_mergeEnrichments row.enrichments e.distinct key

/-!
## Following the law
-/

/-- After every call the stored document is what the law says. -/
def FollowsLaw (str : Nat -> String) (action : Action) (i : Incident)
    (calls : List IncidentDict) : Prop :=
  forall before after, calls = before ++ after ->
    stored str action i before = law before

/-- The first call gives no key as None. -/
def FirstWithoutNone (calls : List IncidentDict) : Prop :=
  forall e rest, calls = e :: rest -> forall key, e.fields.lookup key ≠ some .null

/-- No call gives the note as None while there is one. -/
def NotesNotCleared (calls : List IncidentDict) : Prop :=
  forall before e after, calls = before ++ e :: after ->
    e.fields.lookup "note" = some .null -> isKeptNote (law before "note") = false

/-- A later call departs from the law only where it clears a note. -/
theorem lawStep_eq (values : Values) (e : Document) (key : String)
    (h : e.lookup "note" = some .null -> isKeptNote (values "note") = false) :
    lawStep values e key =
      if e.lookup key = some .null then none
      else if key = "note" ∧ isBlankNote (e.lookup "note") = true ∧
          isKeptNote (values "note") = true then
        values "note"
      else (e.lookup key).or (values key) := by
  unfold lawStep
  split
  · rename_i hguard
    rcases hguard with ⟨hkey, hblank, hkept⟩
    subst hkey
    have hnone : e.lookup "note" ≠ some .null := by
      intro hnull
      rw [h hnull] at hkept
      cases hkept
    rw [if_neg hnone]
  · cases e.lookup key with
    | none => simp
    | some value => cases value <;> simp

theorem stored_eq_law {calls : List IncidentDict} (hfirst : FirstWithoutNone calls)
    (hnotes : NotesNotCleared calls) : stored str action i calls = law calls := by
  induction calls using List.reverseRecOn with
  | nil => exact stored_nil
  | append_singleton before e ih =>
      funext key
      cases before with
      | nil =>
          have hkey := hfirst e [] rfl key
          rw [List.nil_append, stored_first, law_singleton, if_neg hkey]
      | cons first rest =>
          have ih := ih
            (fun d rest' heq => hfirst d (rest' ++ [e]) (by rw [heq]; rfl))
            (fun b d a heq => hnotes b d (a ++ [e]) (by rw [heq, List.append_assoc]; rfl))
          have hnote := hnotes (first :: rest) e [] rfl
          rw [stored_later (List.cons_ne_nil first rest) e key, ih, law_snoc,
            lawStep_eq _ _ _ hnote]

theorem FirstWithoutNone.of_append {before after : List IncidentDict}
    (h : FirstWithoutNone (before ++ after)) : FirstWithoutNone before := by
  intro e rest heq
  exact h e (rest ++ after) (by rw [heq]; rfl)

theorem NotesNotCleared.of_append {before after : List IncidentDict}
    (h : NotesNotCleared (before ++ after)) : NotesNotCleared before := by
  intro b e a heq
  exact h b e (a ++ after) (by rw [heq, List.append_assoc]; rfl)

theorem firstWithoutNone_of_followsLaw {calls : List IncidentDict}
    (h : FollowsLaw str action i calls) : FirstWithoutNone calls := by
  intro e rest heq key hnull
  have hlaw := congrFun (h [e] rest heq) key
  rw [stored_first, law_singleton, if_pos hnull] at hlaw
  exact absurd (hnull.symm.trans hlaw) (by simp)

theorem notesNotCleared_of_followsLaw {calls : List IncidentDict}
    (h : FollowsLaw str action i calls) : NotesNotCleared calls := by
  intro before e after heq hnull
  cases before with
  | nil => rfl
  | cons first rest =>
      have hbefore := h (first :: rest) (e :: after) heq
      have hlaw := congrFun
        (h ((first :: rest) ++ [e]) after (by rw [heq, List.append_assoc]; rfl)) "note"
      rw [stored_later (List.cons_ne_nil first rest) e "note", if_pos hnull, law_snoc] at hlaw
      cases hkept : isKeptNote (law (first :: rest) "note") with
      | false => rfl
      | true =>
          unfold lawStep at hlaw
          rw [if_pos ⟨rfl, by rw [hnull]; rfl, hkept⟩] at hlaw
          rw [← hlaw] at hkept
          cases hkept

/-- A sequence of calls follows the law if and only if its first call gives no key as None
and no call gives the note as None while there is one. -/
theorem followsLaw_iff (str : Nat -> String) (action : Action) (i : Incident)
    (calls : List IncidentDict) :
    FollowsLaw str action i calls <-> FirstWithoutNone calls ∧ NotesNotCleared calls := by
  constructor
  · intro h
    exact ⟨firstWithoutNone_of_followsLaw h, notesNotCleared_of_followsLaw h⟩
  · intro h before after heq
    subst heq
    exact stored_eq_law h.1.of_append h.2.of_append

def sampleAction : Action := ⟨"generic_enrich", "user@keep", "Incident enriched"⟩

def sampleIncident : Incident where
  db := ⟨[1], [], [], List.nodup_nil⟩
  tenantId := "keep"
  incidentId := 1
  insertable := by decide

def writeNote : IncidentDict where
  fields := [("note", .text "on call")]
  distinct := by simp [Dict.Distinct]

def clearNote : IncidentDict where
  fields := [("note", .null)]
  distinct := by simp [Dict.Distinct]

/-- A note given as None erases the note that is there. -/
theorem note_erased :
    ¬ FollowsLaw toString sampleAction sampleIncident [writeNote, clearNote] := by
  intro h
  have hkept := notesNotCleared_of_followsLaw h [writeNote] clearNote [] rfl rfl
  cases hkept

end Enrichments
end KeepGateway
