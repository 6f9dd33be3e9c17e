import Mathlib.Data.List.Infix
import KeepGateway.Deduplication.AlertDeduplicator
import KeepGateway.Rules.TypeCoercion

/-!
# Filtering of alerts

`RulesEngine.filter_alerts` and the activations that it evaluates a program on.  Compiling and
evaluating are celpy's, and so are the values that it makes of JSON.
-/

namespace KeepGateway
namespace Rules

open Deduplication (AlertDto Attributes)
open JsonText (Value Number)

/-!
## Activations
-/

/-- `forbidden_starts` -/
def forbiddenStarts : List Char :=
  ['@', '-', '$', '#', ' ', ':', '.', '/', '\\', '*', '&', '^', '%', '!']

mutual

/-- `_sanitize_dict`; none where `k[0]` is of an empty key. -/
def sanitizeDict : List (String × Value) -> Option (List (String × Value))
  | [] => some []
  | (k, v) :: rest =>
      match k.toList with
      | [] => none
      | c :: _ =>
          if c ∈ forbiddenStarts then sanitizeDict rest
          else
            match sanitizeValue v, sanitizeDict rest with
            | some v, some rest => some ((k, v) :: rest)
            | _, _ => none

def sanitizeValue : Value -> Option Value
  | .object members => (sanitizeDict members).map .object
  | .array items => (sanitizeItems items).map .array
  | value => some value

/-- Of the items of a list only the dictionaries. -/
def sanitizeItems : List Value -> Option (List Value)
  | [] => some []
  | .object members :: rest =>
      match sanitizeDict members, sanitizeItems rest with
      | some members, some rest => some (.object members :: rest)
      | _, _ => none
  | item :: rest => (sanitizeItems rest).map fun rest => item :: rest

end

def textOf : Value -> Option String
  | .string text => some text
  | _ => none

/-- `",".join(source)`; none where an item is no string, or there are no items to iterate. -/
def joinSource : Value -> Option String
  | .string source => some (",".intercalate (source.toList.map fun c => String.ofList [c]))
  | .array items => (items.mapM textOf).map ",".intercalate
  | .object members => some (",".intercalate (members.map Prod.fst))
  | _ => none

theorem toDigits_all_isNumberChar (n : Nat) :
    (Nat.toDigits 10 n).all JsonText.isNumberChar = true := by
  rw [List.all_eq_true]
  intro c hc
  have hdigit := Nat.isDigit_of_mem_toDigits (by decide) (by decide) hc
  rw [JsonText.isNumberChar, Char.isAlphanum, hdigit]
  simp

def numberOf (n : Nat) : Number := ⟨Nat.toDigits 10 n, toDigits_all_isNumberChar n⟩

/-- A severity in words becomes its order; none where it is not a severity. -/
def severityOf : Value -> Option Value
  | .string value => (severityOrder value.toList).map fun order => .number (numberOf order)
  | value => some value

/-- The payload of an alert that `json_to_cel` is given. -/
def activationPayload (alert : Attributes) : Option Value := do
  let source <- alert.lookup "source"
  let source <- joinSource source
  let payload := Dict.set "source" (.string source) alert
  let severity <- payload.lookup "severity"
  let severity <- severityOf severity
  sanitizeValue (.object (Dict.set "severity" severity payload))

abbrev Activation : Type := List (List Char × CelValue)

/-!
## The filter
-/

/-- What `prgm.evaluate` returns, as Python takes it for a condition, or raises. -/
inductive Outcome where
  | value (truth : Bool)
  | valueError (message : List Char)
  | celEvalError (message : List Char)
  | otherException

/-- What celpy does: `json_to_cel`, `compile` with `program`, and `evaluate`. -/
structure Celpy (Program : Type) where
  jsonToCel : Value -> Option Activation
  compile : List Char -> Option Program
  evaluate : Program -> Activation -> Outcome

/-- What `filter_alerts` raises. -/
inductive FilterError where
  | compile
  | activation
  | indexError
  | unboundLocal
  deriving DecidableEq, Repr

/-- `text in message` -/
def within (text : String) (message : List Char) : Bool := decide (text.toList <:+: message)

/-- `r` and `filtered_alerts`; none before `r` is assigned. -/
structure FilterState where
  r : Option Bool
  filteredAlerts : List AlertDto

/-- The state with the alert appended. -/
def FilterState.append (st : FilterState) (alert : AlertDto) : FilterState :=
  ⟨st.r, st.filteredAlerts ++ [alert]⟩

section

variable {Program : Type} (celpy : Celpy Program) (reading : Reading) (isAlnum : Char -> Bool)

/-- The activation of one alert. -/
def activationOf (alert : AlertDto) : Except FilterError Activation :=
  match (activationPayload alert.attributes).bind celpy.jsonToCel with
  | some activation => .ok activation
  | none => .error .activation

/-- `get_alerts_activation` -/
def getAlertsActivation (alerts : List AlertDto) : Except FilterError (List Activation) :=
  alerts.mapM (activationOf celpy)

/-- The activation of the alert at an index, from the list that was given unless it is empty. -/
def activationAt (alertsActivation : List Activation) (i : Nat) (alert : AlertDto) :
    Except FilterError Activation :=
  match alertsActivation with
  | [] => activationOf celpy alert
  | _ :: _ =>
      match alertsActivation[i]? with
      | some activation => .ok activation
      | none => .error .indexError

/-- What the loop does with an outcome.  The branch of a `ValueError` that is not passed over
goes on to the test of `r`. -/
def afterOutcome (cel : List Char) (activation : Activation) (st : FilterState)
    (alert : AlertDto) : Outcome -> Except FilterError FilterState
  | .value truth =>
      .ok (if truth then FilterState.append ⟨some truth, st.filteredAlerts⟩ alert
        else ⟨some truth, st.filteredAlerts⟩)
  | .valueError message =>
      if within "Invalid name" message then .ok st
      else
        match st.r with
        | none => .error .unboundLocal
        | some r => .ok (if r then st.append alert else st)
  | .celEvalError message =>
      if within "no such member" message then .ok st
      else if within "no such overload" message || within "found no matching overload" message then
        .ok (if coerceEqTypeError reading cel activation then st.append alert else st)
      else .ok st
  | .otherException => .ok st

/-- The loop of `filter_alerts` from an index on. -/
def filterLoop (program : Program) (cel : List Char) (alertsActivation : List Activation) :
    Nat -> FilterState -> List AlertDto -> Except FilterError FilterState
  | _, st, [] => .ok st
  | i, st, alert :: rest => do
      let activation <- activationAt celpy alertsActivation i alert
      let st <- afterOutcome reading cel activation st alert (celpy.evaluate program activation)
      filterLoop program cel alertsActivation (i + 1) st rest

/-- `filter_alerts` -/
def filterAlerts (alerts : List AlertDto) (cel : List Char) (alertsActivation : List Activation) :
    Except FilterError (List AlertDto) :=
  if cel = [] then .ok alerts
  else
    match celpy.compile (preprocessCelExpression isAlnum cel) with
    | none => .error .compile
    | some program =>
        (filterLoop celpy reading program (preprocessCelExpression isAlnum cel) alertsActivation 0
          ⟨none, []⟩ alerts).map FilterState.filteredAlerts

end

end Rules
end KeepGateway
