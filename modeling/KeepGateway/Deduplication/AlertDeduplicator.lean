import KeepGateway.Lib.Except
import KeepGateway.Lib.SortedKeys

/-!
# The alert deduplicator

`AlertDeduplicator.apply_deduplication` on an alert, with the rules and the last hashes that it
is given or reads from the database.
-/

namespace KeepGateway
namespace Deduplication

open JsonText (Value ReadableMembers readableMembers_iff dumps)

/-- What `_remove_field` raises. -/
inductive FieldError where
  | attributeError
  | keyError
  | typeError
  deriving DecidableEq, Repr

/-- The fields of an alert, declared and extra ones. -/
abbrev Attributes : Type := List (String × Value)

/-- `field.split(".")` -/
def fieldParts (field : String) : List String := (field.toList.splitOn '.').map String.ofList

/-- `d[part]` -/
def getItem (d : Value) (part : String) : Except FieldError Value :=
  match d with
  | .object members =>
      match members.lookup part with
      | some value => .ok value
      | none => .error .keyError
  | _ => .error .typeError

/-- `del d[part]` -/
def delItem (d : Value) (part : String) : Except FieldError Value :=
  match d with
  | .object members =>
      match members.lookup part with
      | some _ => .ok (.object (Dict.erase part members))
      | none => .error .keyError
  | _ => .error .typeError

/-- The branch of `_remove_field` for a path of more than one part: the dictionary that the last
part is deleted from takes the place of the whole field. -/
def removePath (first : String) (middle : List String) (last : String)
    (alert : Attributes) : Except FieldError Attributes :=
  match alert.lookup first with
  | none => .error .attributeError
  | some value => do
      let d <- middle.foldlM getItem value
      let d <- delItem d last
      .ok (Dict.set first d alert)

/-- `_remove_field`; an `AttributeError` of `delattr` is passed over. -/
def removeField (alert : Attributes) (field : String) : Except FieldError Attributes :=
  match fieldParts field with
  | first :: part :: rest =>
      removePath first (part :: rest).dropLast ((part :: rest).getLastD part) alert
  | _ => .ok (Dict.erase field alert)

/-- An `AlertDto`: its validators leave no fingerprint empty. -/
structure AlertDto where
  attributes : Attributes
  fingerprint : String
  distinct : Dict.Distinct attributes
  readable : ReadableMembers attributes
  fingerprint_eq : attributes.lookup "fingerprint" = some (.string fingerprint)

/-- The fields of a `DeduplicationRuleDto` that the deduplicator reads. -/
structure DeduplicationRuleDto where
  id : Option String
  ignoreFields : List String
  deriving DecidableEq, Repr

theorem readableMembers_set {members : List (String × Value)} (h : ReadableMembers members)
    {value : Value} (hvalue : value.Readable) (name : String) :
    ReadableMembers (Dict.set name value members) := by
  rw [readableMembers_iff] at h ⊢
  intro m hm
  rcases Dict.mem_set hm with heq | hmem
  · rw [heq]
    exact hvalue
  · exact h m hmem

theorem readable_of_lookup {members : List (String × Value)} (h : ReadableMembers members)
    {name : String} {value : Value} (hvalue : members.lookup name = some value) :
    value.Readable := by
  induction members with
  | nil => cases hvalue
  | cons m rest ih =>
      rcases m with ⟨key, first⟩
      rw [Dict.lookup_cons_eq] at hvalue
      split at hvalue
      · rw [← Option.some.inj hvalue]
        exact h.1
      · exact ih h.2 hvalue

/-- `setattr(alert, name, value)` -/
def AlertDto.setAttribute (alert : AlertDto) (name : String) (value : Value)
    (hname : name ≠ "fingerprint") (hvalue : value.Readable) : AlertDto where
  attributes := Dict.set name value alert.attributes
  fingerprint := alert.fingerprint
  distinct := alert.distinct.set name value
  readable := readableMembers_set alert.readable hvalue name
  fingerprint_eq := by
    rw [Dict.lookup_set_ne hname]
    exact alert.fingerprint_eq

/-- `getattr(alert, name, None)`, as Python takes it for a condition. -/
def AlertDto.isSet (alert : AlertDto) (name : String) : Bool :=
  match alert.attributes.lookup name with
  | some (.bool value) => value
  | _ => false

def AlertDto.alertHash (alert : AlertDto) : Option Value := alert.attributes.lookup "alert_hash"

def AlertDto.setHash (alert : AlertDto) (hash : String) : AlertDto :=
  alert.setAttribute "alert_hash" (.string hash) (by decide) trivial

/-- The flag that tells a full duplicate, or that of a partial one. -/
def flagName (full : Bool) : String := if full then "is_full_duplicate" else "is_partial_duplicate"

def AlertDto.setFlag (alert : AlertDto) (full : Bool) : AlertDto :=
  alert.setAttribute (flagName full) (.bool true) (by cases full <;> decide) trivial

section

-- `hashlib.sha256(text.encode()).hexdigest()`
variable (sha256 : String -> String)

/-- The fields of the alert without those that the rule ignores. -/
def removeFields (fields : List String) (alert : Attributes) : Except FieldError Attributes :=
  fields.foldlM removeField alert

/-- The `alert_hash` that a rule gives an alert. -/
def hashOf (rule : DeduplicationRuleDto) (alert : AlertDto) : Except FieldError String := do
  let copy <- removeFields rule.ignoreFields alert.attributes
  .ok (sha256 (dumps (Value.object copy).sorted))

/-- The last hash of a fingerprint, unless it is empty. -/
def lastHash (lastHashes : List (String × String)) (fingerprint : String) : Option String :=
  (lastHashes.lookup fingerprint).filter fun hash => hash ≠ ""

/-- The flag for a hash is set where there is a last hash to compare it with. -/
def AlertDto.compare (alert : AlertDto) (hash : String) (last : Option String) : AlertDto :=
  match last with
  | some last => alert.setFlag (last = hash)
  | none => alert

/-- `last_alert_fingerprint_to_hash`, and what `get_last_alert_hashes_by_fingerprints` reads of
the database where that is empty. -/
structure LastHashes where
  given : List (String × String)
  stored : String -> List (String × String)

def LastHashes.of (lastHashes : LastHashes) (fingerprint : String) : Option String :=
  lastHash (if lastHashes.given = [] then lastHashes.stored fingerprint else lastHashes.given)
    fingerprint

/-- `_apply_deduplication_rule` -/
def applyDeduplicationRule (lastHashes : LastHashes) (rule : DeduplicationRuleDto)
    (alert : AlertDto) : Except FieldError AlertDto := do
  let hash <- hashOf sha256 rule alert
  .ok ((alert.setHash hash).compare hash (lastHashes.of alert.fingerprint))

end

@[simp]
theorem alertHash_compare (alert : AlertDto) (hash : String) (last : Option String) :
    (alert.compare hash last).alertHash = alert.alertHash := by
  cases last with
  | none => rfl
  | some last =>
      have hname : flagName (last = hash) ≠ "alert_hash" := by
        cases decide (last = hash) <;> decide
      exact Dict.lookup_set_ne hname _ _

@[simp]
theorem alertHash_setHash (alert : AlertDto) (hash : String) :
    (alert.setHash hash).alertHash = some (.string hash) :=
  Dict.lookup_set_self _ _ _

end Deduplication
end KeepGateway
