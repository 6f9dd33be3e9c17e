import KeepGateway.EnrichmentRules.EntityWriter
import KeepGateway.Lib.Dict
import KeepGateway.Lib.Separated
import KeepGateway.Lib.Spans
import KeepGateway.Rules.PreprocessCel

/-!
# Mapping rules

`EnrichmentsBl.check_if_match_and_enrich` for a CSV rule of a single level.
-/

namespace KeepGateway
namespace EnrichmentRules

open JsonText (Value)

/-- What an attribute of an alert can be: a value of JSON other than null, or an object of Python
such as a method. -/
inductive AttributeValue where
  | json (value : Value)
  | other (name : String)

/-- What Python does with the values: the attributes that `getattr` finds on the class of an
alert or on the type of a value, `==` with the value of a row, and regular expressions. -/
structure Python where
  classAttribute : String -> Option AttributeValue
  typeAttribute : AttributeValue -> String -> Option AttributeValue
  equal : AttributeValue -> Value -> Bool
  compiles : String -> Bool
  search : String -> String -> Bool

/-- An `AlertDto`, by its attributes. -/
structure MappedAlert where
  attributes : List (String × Value)

abbrev Row : Type := List (String × Value)

/-- The fields of a `MappingRule` that are read. -/
structure MappingRule where
  name : String
  matchers : List (List String)
  rows : List Row

/-- A value, or None for null. -/
def notNone : Value -> Option Value
  | .null => none
  | value => some value

/-- `row.get(name)` -/
def Row.get (row : Row) (name : String) : Option Value := (row.lookup name).bind notNone

/-- `str.strip` -/
def strip (s : String) : String := String.ofList (Spans.strip Rules.isSpace s.toList)

/-- `value.strip()` for a string. -/
def trimmed : Value -> Value
  | .string text => .string (strip text)
  | value => value

section

variable (py : Python)

/-- `getattr(obj, attr, obj.get(attr, None) if isinstance(obj, dict) else None)` -/
def AttributeValue.getAttribute (obj : AttributeValue) (attr : String) : Option AttributeValue :=
  match py.typeAttribute obj attr with
  | some found => some found
  | none =>
      match obj with
      | .json (.object members) => ((members.lookup attr).bind notNone).map .json
      | _ => none

def MappedAlert.getAttribute (alert : MappedAlert) (attr : String) : Option AttributeValue :=
  match alert.attributes.lookup attr with
  | some value => (notNone value).map .json
  | none => py.classAttribute attr

/-- `get_nested_attribute` for a path. -/
def getNestedAttribute (alert : MappedAlert) (attrPath : String) : Option AttributeValue :=
  match attrPath == "source", alert.attributes.lookup "source" with
  | true, some (.array (first :: _)) => (notNone first).map .json
  | _, _ =>
      match (Separated.split "." attrPath).map fun attr =>
          String.ofList (Replace.replaceAll "@@".toList ".".toList 0 attr.toList) with
      | [] => none
      | attr :: attributes =>
          attributes.foldl (fun obj attr => obj.bind fun obj => obj.getAttribute py attr)
            (alert.getAttribute py attr)

/-- `matcher and get_nested_attribute(alert, matcher) is not None` -/
def hasAttributes (alert : MappedAlert) (matcher : List String) : Bool :=
  !matcher.isEmpty && matcher.all fun attr => (getNestedAttribute py alert attr).isSome

/-- `_is_match` -/
def isMatch (value : Option AttributeValue) (pattern : Option Value) : Except RuleError Bool :=
  match value, pattern with
  | some value, some (.string pattern) =>
      if py.compiles pattern = false then .error .reError
      else
        match value with
        | .json (.string text) => .ok (py.search pattern text)
        | _ => .error .typeError
  | some _, some _ => .error .typeError
  | _, _ => .ok false

/-- `==`, where either side may be None. -/
def isEqual (value : Option AttributeValue) (other : Option Value) : Bool :=
  match value, other with
  | some value, some other => py.equal value other
  | none, none => true
  | _, _ => false

def isWildcard : Option Value -> Bool
  | some (.string text) => text == "*"
  | _ => false

/-- One turn of the `all` of `_check_matcher`. -/
def checkAttribute (alert : MappedAlert) (row : Row) (attr : String) : Except RuleError Bool := do
  let value := getNestedAttribute py alert (strip attr)
  let pattern := row.get (strip attr)
  let isMatched <- isMatch py value pattern
  .ok (isMatched || isEqual py value pattern || isWildcard pattern)

/-- `_check_matcher`: a `TypeError` is taken for no match. -/
def checkMatcher (alert : MappedAlert) (row : Row) (matcher : List String) :
    Except RuleError Bool :=
  match matcher.allM (checkAttribute py alert row) with
  | .error .typeError => .ok false
  | result => result

/-- `any(...)` over the matchers of the rule. -/
def rowMatches (alert : MappedAlert) (rule : MappingRule) (row : Row) : Except RuleError Bool :=
  rule.matchers.anyM (checkMatcher py alert row)

/-- The columns of the row that are neither null nor in a matcher, as `enrichments`. -/
def extractEnrichments (rule : MappingRule) (row : Row) : List (String × Value) :=
  row.foldl (fun enrichments column =>
    match notNone column.2 with
    | none => enrichments
    | some value =>
        if rule.matchers.any fun matcher => matcher.contains column.1 then enrichments
        else Dict.set (strip column.1) (trimmed value) enrichments) []

/-- `setattr` for each enrichment. -/
def MappedAlert.setAttributes (alert : MappedAlert) (enrichments : List (String × Value)) :
    MappedAlert where
  attributes := enrichments.foldl
    (fun attributes entry =>
      match notNone entry.2 with
      | none => attributes
      | some value => Dict.set (strip entry.1) (trimmed value) attributes)
    alert.attributes

/-- What the rule returns, the alert, and what was written. -/
structure Mapped where
  answer : Bool
  alert : MappedAlert
  writes : List EntityWrite

/-- `check_if_match_and_enrich` -/
def checkIfMatchAndEnrich (alert : MappedAlert) (rule : MappingRule) : Except RuleError Mapped :=
  if rule.matchers.any (hasAttributes py alert) = false then .ok ⟨false, alert, []⟩
  else do
    let row <- rule.rows.findM? (rowMatches py alert rule)
    let enrichments := row.elim [] (extractEnrichments rule)
    if enrichments = [] then .ok ⟨false, alert, []⟩
    else do
      let alert := alert.setAttributes enrichments
      let fingerprint := (alert.attributes.lookup "fingerprint").getD .null
      let writes <- enrichEntity [fingerprint, .object enrichments]
        [("action_type", .string "alert enriched by mapping rule"),
          ("action_callee", .string "system"),
          ("action_description",
            .string ("Alert enriched with mapping from rule `" ++ rule.name ++ "`")),
          ("should_exist", .bool false), ("strict", .bool false)] []
      .ok ⟨true, alert, writes⟩

end

end EnrichmentRules
end KeepGateway
