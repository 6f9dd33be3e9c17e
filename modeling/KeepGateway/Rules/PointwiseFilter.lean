import KeepGateway.Lib.Except
import KeepGateway.Rules.CoercedConjunctions
import KeepGateway.Rules.FilterAlerts

/-!
# Filtering alert by alert

When the filter decides each alert by the outcome of its own evaluation.
-/

namespace KeepGateway
namespace Rules

open Deduplication (AlertDto Attributes)
open JsonText (Value)

section

variable {Program : Type} (celpy : Celpy Program) (reading : Reading) (isAlnum : Char -> Bool)

/-!
## The law
-/

/-- The outcome makes the alert that it is of match. -/
def Outcome.decides (cel : List Char) (activation : Activation) : Outcome -> Bool
  | .value truth => truth
  | .valueError _ => false
  | .celEvalError message =>
      !within "no such member" message &&
        (within "no such overload" message || within "found no matching overload" message) &&
        coerceEqTypeError reading cel activation
  | .otherException => false

/-- The alert matches by its own outcome; where the expression is empty every alert does. -/
def alertMatches (cel : List Char) (alert : AlertDto) : Bool :=
  if cel = [] then true
  else
    match celpy.compile (preprocessCelExpression isAlnum cel), activationOf celpy alert with
    | some program, .ok activation =>
        (celpy.evaluate program activation).decides reading (preprocessCelExpression isAlnum cel)
          activation
    | _, _ => false

/-- The alerts that match are returned in order, whatever other alerts are in the list, and with
activations computed before as without. -/
structure FiltersPointwise (cel : List Char) (alerts : List AlertDto) : Prop where
  matching : filterAlerts celpy reading isAlnum alerts cel [] =
    .ok (alerts.filter (alertMatches celpy reading isAlnum cel))
  append : forall xs ys, alerts = xs ++ ys ->
    filterAlerts celpy reading isAlnum alerts cel [] = (do
      let first <- filterAlerts celpy reading isAlnum xs cel []
      let second <- filterAlerts celpy reading isAlnum ys cel []
      .ok (first ++ second))
  precomputed : forall activations, getAlertsActivation celpy alerts = .ok activations ->
    filterAlerts celpy reading isAlnum alerts cel activations =
      filterAlerts celpy reading isAlnum alerts cel []

/-!
## One alert
-/

/-- A `ValueError` that the loop does not pass over. -/
def Outcome.fallsThrough : Outcome -> Bool
  | .valueError message => !within "Invalid name" message
  | _ => false

variable {celpy reading isAlnum} {cel : List Char}

/-- Before any value is assigned, an outcome that falls through is an error. -/
theorem afterOutcome_unbound {outcome : Outcome} (h : outcome.fallsThrough = true)
    (activation : Activation) (alert : AlertDto) (filteredAlerts : List AlertDto) :
    afterOutcome reading cel activation ⟨none, filteredAlerts⟩ alert outcome =
      .error .unboundLocal := by
  cases outcome with
  | valueError message =>
      have hinvalid : ¬ within "Invalid name" message = true := by
        rw [Outcome.fallsThrough, Bool.not_eq_true'] at h
        rw [h]
        exact Bool.false_ne_true
      rw [afterOutcome, if_neg hinvalid]
  | value truth => cases h
  | celEvalError message => cases h
  | otherException => cases h

/-!
## The loop
-/

/-- The activations that were given from an index on are those that would be computed. -/
def Gives (celpy : Celpy Program) (alertsActivation : List Activation) (i : Nat)
    (alerts : List AlertDto) : Prop :=
  forall j alert, alerts[j]? = some alert ->
    activationAt celpy alertsActivation (i + j) alert = activationOf celpy alert

theorem Gives.tail {alertsActivation : List Activation} {i : Nat} {alert : AlertDto}
    {rest : List AlertDto} (h : Gives celpy alertsActivation i (alert :: rest)) :
    Gives celpy alertsActivation (i + 1) rest := by
  intro j other hother
  have hat := h (j + 1) other hother
  rw [show i + (j + 1) = i + 1 + j by omega] at hat
  exact hat

/-- The program decides every alert without falling through. -/
def Decides (celpy : Celpy Program) (program : Program) (alert : AlertDto) : Prop :=
  exists activation, activationOf celpy alert = .ok activation ∧
    (celpy.evaluate program activation).fallsThrough = false

/-- A loop that ends has an activation for each alert. -/
theorem activation_of_filterLoop {program : Program} {i : Nat} {alerts : List AlertDto}
    {st last : FilterState}
    (h : filterLoop celpy reading program cel [] i st alerts = .ok last) :
    forall alert, alert ∈ alerts ->
      exists activation, activationOf celpy alert = .ok activation := by
  induction alerts generalizing i st with
  | nil =>
      intro alert halert
      exact absurd halert List.not_mem_nil
  | cons alert rest ih =>
      rw [filterLoop] at h
      rcases bind_eq_ok.mp h with ⟨activation, hactivation, h⟩
      rcases bind_eq_ok.mp h with ⟨next, _, h⟩
      intro other hother
      rcases List.mem_cons.mp hother with hhead | hrest
      · rw [hhead]
        exact ⟨activation, hactivation⟩
      · exact ih h other hrest

/-- A loop that starts with an outcome that falls through does not end. -/
theorem filterLoop_unbound {program : Program} {alert : AlertDto} {activation : Activation}
    (hactivation : activationOf celpy alert = .ok activation)
    (hfalls : (celpy.evaluate program activation).fallsThrough = true) (rest : List AlertDto)
    (filteredAlerts : List AlertDto) :
    filterLoop celpy reading program cel [] 0 ⟨none, filteredAlerts⟩ (alert :: rest) =
      .error .unboundLocal := by
  have hat : activationAt celpy [] 0 alert = .ok activation := hactivation
  rw [filterLoop, hat]
  dsimp only [bind, Except.bind]
  rw [afterOutcome_unbound hfalls]

/-!
## The condition
-/

section

variable {program : Program}

theorem filterAlerts_eq (hne : cel ≠ [])
    (hcompile : celpy.compile (preprocessCelExpression isAlnum cel) = some program)
    (alerts : List AlertDto) (alertsActivation : List Activation) :
    filterAlerts celpy reading isAlnum alerts cel alertsActivation =
      (filterLoop celpy reading program (preprocessCelExpression isAlnum cel) alertsActivation 0
        ⟨none, []⟩ alerts).map FilterState.filteredAlerts := by
  rw [filterAlerts, if_neg hne, hcompile]

end

theorem FiltersPointwise.decides {program : Program} (hne : cel ≠ [])
    (hcompile : celpy.compile (preprocessCelExpression isAlnum cel) = some program)
    {alerts : List AlertDto} (h : FiltersPointwise celpy reading isAlnum cel alerts) :
    forall alert, alert ∈ alerts -> Decides celpy program alert := by
  intro alert halert
  have hends := h.matching
  rw [filterAlerts_eq hne hcompile] at hends
  rcases map_eq_ok.mp hends with ⟨last, hloop, _⟩
  rcases activation_of_filterLoop hloop alert halert with ⟨activation, hactivation⟩
  refine ⟨activation, hactivation, ?_⟩
  rw [← Bool.not_eq_true]
  intro hfalls
  -- cut off what comes before it, the alert is the first of a list that is not filtered
  rcases List.append_of_mem halert with ⟨xs, ys, heq⟩
  have hcut := h.append xs (alert :: ys) heq
  rw [h.matching] at hcut
  rcases bind_eq_ok.mp hcut.symm with ⟨first, _, hcut⟩
  rcases bind_eq_ok.mp hcut with ⟨second, hsecond, _⟩
  rw [filterAlerts_eq hne hcompile, filterLoop_unbound hactivation hfalls] at hsecond
  cases hsecond

end

/-!
## An integer that is not one
-/

end Rules
end KeepGateway
