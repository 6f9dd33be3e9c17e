import KeepGateway.EnrichmentRules.EntityWriter
import KeepGateway.Lib.Dict
import KeepGateway.Lib.Separated

/-!
# Extraction rules

`EnrichmentsBl.run_extraction_rules` on an event that is a dictionary.  Rendering a template,
evaluating a condition and searching a regular expression are given functions.
-/

namespace KeepGateway
namespace EnrichmentRules

open JsonText (Value)
open Separated (startsWith endsWith)

abbrev Event : Type := List (String × Value)

/-- The fields of an `ExtractionRule` that are read. -/
structure ExtractionRule where
  name : String
  condition : Option String
  attr : String
  regex : String
  deriving DecidableEq, Repr

/-- `groupdict()`: a group that took no part in the match is None. -/
abbrev Groups : Type := List (String × Option String)

/-- `chevron.render`, `html.unescape`, the evaluation of a CEL program, and `re.search`. -/
structure Evaluation where
  render : String -> Event -> String
  unescape : String -> String
  evaluate : String -> Event -> Bool
  search : String -> String -> Option Groups

/-- The event as changed so far, and what was written. -/
structure Extracted where
  event : Event
  writes : List EntityWrite

def members (groups : Groups) : List (String × Value) :=
  groups.map fun group => (group.1, group.2.elim .null .string)

/-- The attribute in braces, so that it is a template. -/
def templateOf (attr : String) : String :=
  if startsWith attr "\x7b\x7b" = false ∧ endsWith attr "\x7d\x7d" = false then
    "\x7b\x7b " ++ attr ++ " \x7d\x7d"
  else attr

section

variable (ev : Evaluation)

/-- No condition, or one that the event meets. -/
def relevant (rule : ExtractionRule) (event : Event) : Bool :=
  match rule.condition with
  | none => true
  | some condition => condition == "*" || condition == "" || ev.evaluate condition event

/-- The body of the loop for one rule. -/
def runExtractionRule (fingerprint : Value) (s : Extracted) (rule : ExtractionRule) :
    Except RuleError Extracted :=
  let attributeValue := ev.unescape (ev.render (templateOf rule.attr) s.event)
  if attributeValue = "" then .ok s
  else if relevant ev rule s.event = false then .ok s
  else
    match ev.search rule.regex attributeValue with
    | none => .ok s
    | some groups => do
        -- `source` is not overridden
        let matchDict := members (Dict.erase "source" groups)
        let event := Dict.update s.event matchDict
        let writes <- enrichEntity [fingerprint, .object matchDict]
          [("action_type", .string "alert enriched by extraction rule"),
            ("action_callee", .string "system"),
            ("action_description",
              .string ("Alert enriched with extraction from rule `" ++ rule.name ++ "`")),
            ("should_exist", .bool false), ("strict", .bool false)] s.writes
        .ok ⟨event, writes⟩

/-- `run_extraction_rules`; `stored` are the rules of the tenant, which are taken where none are
given. -/
def runExtractionRules (enrichmentDisabled : Bool) (stored : List ExtractionRule) (event : Event)
    (rules : List ExtractionRule) : Except RuleError Extracted :=
  if enrichmentDisabled = true then .ok ⟨event, []⟩
  else
    let fingerprint := (event.lookup "fingerprint").getD .null
    let rules := if rules = [] then stored else rules
    rules.foldlM (runExtractionRule ev fingerprint) ⟨event, []⟩

/-!
## The rules as a fold
-/

/-- The named groups of the match, where the attribute has a text, the condition holds and the
regular expression matches. -/
def extraction (rule : ExtractionRule) (event : Event) : Option (List (String × Value)) :=
  let text := ev.unescape (ev.render (templateOf rule.attr) event)
  if text ≠ "" ∧ relevant ev rule event = true then
    (ev.search rule.regex text).map fun groups => members (Dict.erase "source" groups)
  else none

/-- The event overwritten with the groups of each rule in its turn, and these groups. -/
def extractInOrder : List ExtractionRule -> Event -> Event × List (List (String × Value))
  | [], event => (event, [])
  | rule :: rest, event =>
      match extraction ev rule event with
      | none => extractInOrder rest event
      | some groups =>
          let after := extractInOrder rest (Dict.update event groups)
          (after.1, groups :: after.2)

/-- The rules are run without raising; the event is that of the fold, with its source, and each
rule that applies is one write of its groups. -/
def FoldsRules (enrichmentDisabled : Bool) (stored : List ExtractionRule) (event : Event)
    (rules : List ExtractionRule) : Prop :=
  exists result, runExtractionRules ev enrichmentDisabled stored event rules = .ok result ∧
    result.event = (extractInOrder ev rules event).1 ∧
    result.event.lookup "source" = event.lookup "source" ∧
    result.writes.map EntityWrite.enrichments =
      (extractInOrder ev rules event).2.map Value.object ∧
    forall write, write ∈ result.writes ->
      write.fingerprint = (event.lookup "fingerprint").getD .null

end

/-!
## One rule
-/

section

variable {ev : Evaluation}

/-- Every rule that applies raises: its fingerprint and its groups are given by position. -/
theorem runExtractionRule_eq (fingerprint : Value) (s : Extracted) (rule : ExtractionRule) :
    runExtractionRule ev fingerprint s rule =
      if extraction ev rule s.event = none then .ok s else .error .typeError := by
  unfold runExtractionRule extraction
  rcases Classical.em (ev.unescape (ev.render (templateOf rule.attr) s.event) = "") with
    hempty | htext
  · simp [hempty]
  · cases hrelevant : relevant ev rule s.event with
    | false => simp [htext]
    | true =>
        cases hsearch : ev.search rule.regex
            (ev.unescape (ev.render (templateOf rule.attr) s.event)) with
        | none => simp [htext, hsearch]
        | some groups => simp [htext, hsearch, enrichEntity_cons, bind, Except.bind]

theorem foldlM_runExtractionRule (fingerprint : Value) (s : Extracted)
    (rules : List ExtractionRule) :
    rules.foldlM (runExtractionRule ev fingerprint) s =
      if forall rule, rule ∈ rules -> extraction ev rule s.event = none then .ok s
      else .error .typeError := by
  induction rules with
  | nil =>
      rw [if_pos fun rule hmem => absurd hmem List.not_mem_nil]
      rfl
  | cons rule rest ih =>
      rw [List.foldlM_cons, runExtractionRule_eq]
      rcases Classical.em (extraction ev rule s.event = none) with hnone | hsome
      · rw [if_pos hnone]
        show rest.foldlM (runExtractionRule ev fingerprint) s = _
        simp only [ih, List.forall_mem_cons, hnone, true_and]
      · rw [if_neg hsome, if_neg fun h => hsome (h rule List.mem_cons_self)]
        rfl

theorem extractInOrder_of_none {rules : List ExtractionRule} {event : Event}
    (h : forall rule, rule ∈ rules -> extraction ev rule event = none) :
    extractInOrder ev rules event = (event, []) := by
  induction rules with
  | nil => rfl
  | cons rule rest ih =>
      rcases List.forall_mem_cons.mp h with ⟨hrule, hrest⟩
      rw [extractInOrder, hrule]
      exact ih hrest

/-- Where nothing is written, no rule applies to the event as it is. -/
theorem extraction_eq_none_of_nil {rules : List ExtractionRule} {event : Event}
    (h : (extractInOrder ev rules event).2 = []) :
    forall rule, rule ∈ rules -> extraction ev rule event = none := by
  induction rules with
  | nil => exact fun rule hmem => absurd hmem List.not_mem_nil
  | cons rule rest ih =>
      rw [extractInOrder] at h
      cases hrule : extraction ev rule event with
      | none =>
          rw [hrule] at h
          exact List.forall_mem_cons.mpr ⟨hrule, ih h⟩
      | some groups =>
          rw [hrule] at h
          cases h

/-- The rules are a fold exactly where none of them applies to the event. -/
theorem foldsRules_iff (ev : Evaluation) (enrichmentDisabled : Bool)
    (stored : List ExtractionRule) (event : Event) (rule : ExtractionRule)
    (rest : List ExtractionRule) :
    FoldsRules ev enrichmentDisabled stored event (rule :: rest) <->
      forall r, r ∈ rule :: rest -> extraction ev r event = none := by
  have hrun : forall result,
      runExtractionRules ev enrichmentDisabled stored event (rule :: rest) = .ok result ->
        result = ⟨event, []⟩ ∧ (enrichmentDisabled = true ∨
          forall r, r ∈ rule :: rest -> extraction ev r event = none) := by
    intro result h
    unfold runExtractionRules at h
    split at h
    · rename_i hdisabled
      exact ⟨(Except.ok.inj h).symm, Or.inl hdisabled⟩
    · rw [if_neg (List.cons_ne_nil rule rest), foldlM_runExtractionRule] at h
      split at h
      · rename_i hnone
        exact ⟨(Except.ok.inj h).symm, Or.inr hnone⟩
      · cases h
  constructor
  · rintro ⟨result, hok, _, _, hwrites, _⟩
    rw [(hrun result hok).1] at hwrites
    exact extraction_eq_none_of_nil (List.map_eq_nil_iff.mp hwrites.symm)
  · intro hnone
    refine ⟨⟨event, []⟩, ?_, ?_, rfl, ?_, fun write hmem => absurd hmem List.not_mem_nil⟩
    · unfold runExtractionRules
      split
      · rfl
      · rw [if_neg (List.cons_ne_nil rule rest), foldlM_runExtractionRule]
        exact if_pos hnone
    · rw [extractInOrder_of_none hnone]
    · rw [extractInOrder_of_none hnone]
      rfl

end

/-!
## A rule for the host
-/

/-- A template of one name, and a pattern for the whole text. -/
def sampleEvaluation : Evaluation where
  render template event :=
    if template = "\x7b\x7b name \x7d\x7d" then
      match event.lookup "name" with
      | some (.string name) => name
      | _ => ""
    else ""
  unescape text := text
  evaluate _ _ := true
  search regex text := if regex = "^(?P<host>.*)$" then some [("host", some text)] else none

def hostRule : ExtractionRule := ⟨"host of the alert", none, "name", "^(?P<host>.*)$"⟩

/-- The rule matches, and the call of the entity writer raises. -/
theorem hostRule_not_foldsRules :
    ¬ FoldsRules sampleEvaluation false [] [("name", .string "db1")] [hostRule] := by
  rintro ⟨result, hok, _⟩
  have hraises : runExtractionRules sampleEvaluation false [] [("name", .string "db1")] [hostRule] =
      .error .typeError := rfl
  rw [hraises] at hok
  cases hok

end EnrichmentRules
end KeepGateway
