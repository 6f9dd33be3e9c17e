import KeepGateway.EnrichmentRules.Mapping
import KeepGateway.Lib.Except

/-!
# The first matching row

When a mapping rule enriches an alert from the first row that one of its matchers is satisfied by.
-/

namespace KeepGateway
namespace EnrichmentRules

open JsonText (Value)

section

variable (py : Python)

/-- The regular expression of the row, where it is one, matches the text of the attribute. -/
def regexMatches : Option AttributeValue -> Option Value -> Bool
  | some (.json (.string text)), some (.string pattern) =>
      py.compiles pattern && py.search pattern text
  | _, _ => false

/-- Any of the three ways to match. -/
def satisfies (alert : MappedAlert) (row : Row) (attr : String) : Bool :=
  let value := getNestedAttribute py alert (strip attr)
  let other := row.get (strip attr)
  regexMatches py value other || isEqual py value other || isWildcard other

/-- The first row that satisfies all attributes of some matcher. -/
def firstRow (alert : MappedAlert) (rule : MappingRule) : Option Row :=
  rule.rows.find? fun row => rule.matchers.any fun matcher => matcher.all (satisfies py alert row)

/-- The column is neither null nor in a matcher. -/
def isAdded (rule : MappingRule) (column : String × Value) : Bool :=
  (notNone column.2).isSome && !rule.matchers.any fun matcher => matcher.contains column.1

def columnsOf (rule : MappingRule) (row : Row) : List (String × Value) :=
  (row.filter (isAdded rule)).map fun column => (column.1, trimmed column.2)

/-- What the alert is to be enriched with, if anything. -/
def toEnrich (alert : MappedAlert) (rule : MappingRule) : Option (List (String × Value)) :=
  if rule.matchers.any (hasAttributes py alert) = true then
    (firstRow py alert rule).bind fun row =>
      if columnsOf rule row = [] then none else some (columnsOf rule row)
  else none

/-- The alert has the columns besides what it had and they are one enrichment, or it is untouched. -/
def IsAnswer (alert : MappedAlert) : Option (List (String × Value)) -> Mapped -> Prop
  | some columns, result => result.answer = true ∧
      result.alert.attributes = Dict.update alert.attributes columns ∧
      result.writes.map EntityWrite.enrichments = [.object columns]
  | none, result => result = ⟨false, alert, []⟩

def EnrichesFromFirstRow (alert : MappedAlert) (rule : MappingRule) : Prop :=
  exists result, checkIfMatchAndEnrich py alert rule = .ok result ∧
    IsAnswer alert (toEnrich py alert rule) result

/-- No row that the search gets to raises, or matches and has a column to add. -/
def PassesRows (alert : MappedAlert) (rule : MappingRule) : Prop :=
  forall before row after, rule.rows = before ++ row :: after ->
    (forall earlier, earlier ∈ before -> rowMatches py alert rule earlier = .ok false) ->
      rowMatches py alert rule row = .ok false ∨
        rowMatches py alert rule row = .ok true ∧ columnsOf rule row = []

end

/-!
## The columns of a row
-/

theorem set_ne_nil (key : String) (value : Value) (d : List (String × Value)) :
    Dict.set key value d ≠ [] := by
  cases d with
  | nil => exact List.cons_ne_nil _ _
  | cons entry rest =>
      rw [Dict.set]
      split
      · exact List.cons_ne_nil _ _
      · exact List.cons_ne_nil _ _

theorem columnsOf_eq_nil_iff {rule : MappingRule} {row : Row} :
    columnsOf rule row = [] <-> forall column, column ∈ row -> isAdded rule column = false := by
  unfold columnsOf
  rw [List.map_eq_nil_iff, List.filter_eq_nil_iff]
  simp only [Bool.not_eq_true]

/-- A step that keeps what there is leaves nothing only of columns that add nothing. -/
theorem foldl_eq_nil {β : Type} {f : List (String × Value) -> β -> List (String × Value)}
    {adds : β -> Bool}
    (hf : forall enrichments column,
      f enrichments column = [] <-> enrichments = [] ∧ adds column = false)
    (columns : List β) (enrichments : List (String × Value)) :
    columns.foldl f enrichments = [] <->
      enrichments = [] ∧ forall column, column ∈ columns -> adds column = false := by
  induction columns generalizing enrichments with
  | nil => simp
  | cons column rest ih =>
      rw [List.foldl_cons, ih, hf, List.forall_mem_cons, and_assoc]

theorem extractEnrichments_eq_nil {rule : MappingRule} {row : Row} :
    extractEnrichments rule row = [] <-> columnsOf rule row = [] := by
  rw [columnsOf_eq_nil_iff]
  unfold extractEnrichments
  refine (foldl_eq_nil (fun enrichments column => ?_) row []).trans (and_iff_right rfl)
  rw [isAdded]
  cases hvalue : notNone column.2 with
  | none => simp
  | some value =>
      cases hmatcher : rule.matchers.any fun matcher => matcher.contains column.1 with
      | true => simp
      | false => simp [set_ne_nil]

/-!
## The search for a row
-/

section

variable {py : Python}

theorem checkIfMatchAndEnrich_eq_ok {alert : MappedAlert} {rule : MappingRule} {result : Mapped} :
    checkIfMatchAndEnrich py alert rule = .ok result <->
      result = ⟨false, alert, []⟩ ∧
        (rule.matchers.any (hasAttributes py alert) = true -> PassesRows py alert rule) := by
  unfold checkIfMatchAndEnrich PassesRows
  cases hattributes : rule.matchers.any (hasAttributes py alert) with
  | false =>
      rw [if_pos rfl]
      exact ⟨fun h => ⟨(Except.ok.inj h).symm, fun h => absurd h Bool.false_ne_true⟩,
        fun h => congrArg Except.ok h.1.symm⟩
  | true =>
      rw [if_neg Bool.false_ne_true.symm, bind_eq_ok, ← findM?_passes]
      constructor
      · rintro ⟨found, hfound, h⟩
        have hnil : found.elim [] (extractEnrichments rule) = [] := by
          by_contra hsome
          rw [if_neg hsome] at h
          rcases bind_eq_ok.mp h with ⟨writes, hwrites, _⟩
          rw [enrichEntity_cons] at hwrites
          cases hwrites
        rw [if_pos hnil] at h
        refine ⟨(Except.ok.inj h).symm, fun _ => ⟨found, hfound, ?_⟩⟩
        intro row hrow
        rw [hrow] at hnil
        exact extractEnrichments_eq_nil.mp hnil
      · rintro ⟨hresult, hpasses⟩
        rcases hpasses rfl with ⟨found, hfound, hcolumns⟩
        refine ⟨found, hfound, ?_⟩
        have hnil : found.elim [] (extractEnrichments rule) = [] := by
          cases found with
          | none => rfl
          | some row => exact extractEnrichments_eq_nil.mpr (hcolumns row rfl)
        rw [if_pos hnil, hresult]

theorem toEnrich_eq_none {alert : MappedAlert} {rule : MappingRule} :
    toEnrich py alert rule = none <->
      (rule.matchers.any (hasAttributes py alert) = true ->
        forall row, firstRow py alert rule = some row -> columnsOf rule row = []) := by
  unfold toEnrich
  split
  · rename_i hattributes
    rw [Option.bind_eq_none_iff]
    constructor
    · intro h _ row hrow
      have hnone := h row hrow
      split at hnone
      · assumption
      · cases hnone
    · intro h row hrow
      exact if_pos (h hattributes row hrow)
  · rename_i hattributes
    exact ⟨fun _ h => absurd h hattributes, fun _ => rfl⟩

/-- A rule enriches from the first row exactly where that row has nothing to add and no row that
the search gets to raises or has something to add. -/
theorem enrichesFromFirstRow_iff (py : Python) (alert : MappedAlert) (rule : MappingRule) :
    EnrichesFromFirstRow py alert rule <->
      (rule.matchers.any (hasAttributes py alert) = true ->
        PassesRows py alert rule ∧
          forall row, firstRow py alert rule = some row -> columnsOf rule row = []) := by
  constructor
  · rintro ⟨result, hok, hanswer⟩ hattributes
    rcases checkIfMatchAndEnrich_eq_ok.mp hok with ⟨hresult, hpasses⟩
    have hnone : toEnrich py alert rule = none := by
      cases henrich : toEnrich py alert rule with
      | none => rfl
      | some columns =>
          rw [henrich, hresult] at hanswer
          exact absurd hanswer.1 Bool.false_ne_true
    exact ⟨hpasses hattributes, toEnrich_eq_none.mp hnone hattributes⟩
  · intro h
    have hnone := toEnrich_eq_none.mpr fun hattributes => (h hattributes).2
    refine ⟨⟨false, alert, []⟩, ?_, ?_⟩
    · exact checkIfMatchAndEnrich_eq_ok.mpr ⟨rfl, fun hattributes => (h hattributes).1⟩
    · rw [hnone]
      rfl

end

/-!
## A rule for the team of a service
-/

/-- No methods; a pattern is found where it is the whole text, and the wildcard is none. -/
def samplePython : Python where
  classAttribute _ := none
  typeAttribute _ _ := none
  equal value other :=
    match value, other with
    | .json (.string text), .string other => text == other
    | _, _ => false
  compiles pattern := pattern != "*"
  search pattern text := pattern == text

def apiAlert : MappedAlert := ⟨[("fingerprint", .string "f1"), ("service", .string "api")]⟩

def teamRule : MappingRule where
  name := "teams"
  matchers := [["service"]]
  rows := [[("service", .string "api"), ("team", .string "core")]]

/-- The row matches, and the call of the entity writer raises. -/
theorem teamRule_not_enriches : ¬ EnrichesFromFirstRow samplePython apiAlert teamRule := by
  rintro ⟨result, hok, _⟩
  have hraises : checkIfMatchAndEnrich samplePython apiAlert teamRule = .error .typeError := rfl
  rw [hraises] at hok
  cases hok

end EnrichmentRules
end KeepGateway
