import KeepGateway.Lib.JsonText

/-!
# The entity writer

`EnrichmentsBl.enrich_entity` as the enrichment rules call it: all its parameters are given by
name.  Every write of the database and of the events succeeds.
-/

namespace KeepGateway
namespace EnrichmentRules

open JsonText (Value)

/-- What a rule raises: `TypeError` and `re.error`. -/
inductive RuleError where
  | typeError
  | reError
  deriving DecidableEq, Repr

/-- One enrichment handed to the database and the event stream. -/
structure EntityWrite where
  fingerprint : Value
  enrichments : Value

/-- The parameters of `_enrich_entity_impl` without a default, and the others. -/
def requiredParameters : List String :=
  ["fingerprint", "enrichments", "action_type", "action_callee", "action_description"]

def optionalParameters : List String :=
  ["should_exist", "dispose_on_new_alert", "force", "audit_enabled", "produce_event", "strict",
    "entity_type", "event_type"]

def enrichEntityImpl (kwargs : List (String × Value)) (writes : List EntityWrite) :
    Except RuleError (List EntityWrite) :=
  if (requiredParameters.all fun name => (kwargs.lookup name).isSome) &&
      kwargs.all fun argument => (requiredParameters ++ optionalParameters).contains argument.1 then
    .ok (writes ++ [⟨(kwargs.lookup "fingerprint").getD .null,
      (kwargs.lookup "enrichments").getD .null⟩])
  else .error .typeError

/-- `enrich_entity(self, **kwargs)` takes no argument by position. -/
def enrichEntity (positional : List Value) (kwargs : List (String × Value))
    (writes : List EntityWrite) : Except RuleError (List EntityWrite) :=
  match positional with
  | [] => enrichEntityImpl kwargs writes
  | _ :: _ => .error .typeError

theorem enrichEntity_cons (argument : Value) (positional : List Value)
    (kwargs : List (String × Value)) (writes : List EntityWrite) :
    enrichEntity (argument :: positional) kwargs writes = .error .typeError := rfl

end EnrichmentRules
end KeepGateway
