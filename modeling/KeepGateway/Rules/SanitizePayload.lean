import KeepGateway.Lib.JsonMembers
import KeepGateway.Rules.FilterAlerts

/-!
# Sanitized payloads

Which payloads `sanitize_cel_payload` returns without their forbidden keys and otherwise as they
are.  It looks at the dictionaries in a list, but not at the lists in a list, and at the first
character of each key it comes to.
-/

namespace KeepGateway
namespace Rules

open JsonText

/-- The key starts with a forbidden character. -/
def isForbidden (key : String) : Bool :=
  key.toList.head?.any fun c => decide (c ∈ forbiddenStarts)

/-- The payload is returned without the forbidden keys at every depth, and what is returned is
sanitized to itself. -/
structure Sanitizes (payload : List (String × Value)) : Prop where
  removes : sanitizeDict payload = some (removeMembers isForbidden payload)
  idempotent : forall sanitized, sanitizeDict payload = some sanitized ->
    sanitizeDict sanitized = some sanitized

mutual

/-- In what is not removed no key is empty, and the lists in a list have no forbidden keys. -/
def Sanitizable : Value -> Prop
  | .object members => MembersSanitizable members
  | .array items => ItemsSanitizable items
  | _ => True

def MembersSanitizable : List (String × Value) -> Prop
  | [] => True
  | (key, value) :: rest =>
      key ≠ "" ∧ (isForbidden key = false -> Sanitizable value) ∧ MembersSanitizable rest

def ItemsSanitizable : List Value -> Prop
  | [] => True
  | .object members :: rest => MembersSanitizable members ∧ ItemsSanitizable rest
  | .array items :: rest => ItemsFreeOf isForbidden items ∧ ItemsSanitizable rest
  | _ :: rest => ItemsSanitizable rest

end

/-!
## One member at a time
-/

section

variable {key : String} {value : Value} {rest : List (String × Value)}

theorem sanitizeDict_empty (value : Value) (rest : List (String × Value)) :
    sanitizeDict (("", value) :: rest) = none := by
  rw [sanitizeDict]
  rfl

theorem sanitizeDict_forbidden (h : isForbidden key = true) :
    sanitizeDict ((key, value) :: rest) = sanitizeDict rest := by
  unfold isForbidden at h
  rw [sanitizeDict]
  cases htext : key.toList with
  | nil =>
      rw [htext] at h
      cases h
  | cons c more =>
      rw [htext] at h
      exact if_pos (of_decide_eq_true h)

theorem sanitizeDict_kept (hne : key ≠ "") (h : isForbidden key = false) :
    sanitizeDict ((key, value) :: rest) =
      (sanitizeValue value).bind fun sanitized =>
        (sanitizeDict rest).map fun others => (key, sanitized) :: others := by
  unfold isForbidden at h
  rw [sanitizeDict]
  cases htext : key.toList with
  | nil => exact absurd (String.toList_eq_nil_iff.mp htext) hne
  | cons c more =>
      rw [htext] at h
      have hc : c ∉ forbiddenStarts := of_decide_eq_false h
      simp only
      rw [if_neg hc]
      cases sanitizeValue value with
      | none => rfl
      | some sanitized =>
          cases sanitizeDict rest with
          | none => rfl
          | some others => rfl

theorem sanitizeItems_object (members : List (String × Value)) (rest : List Value) :
    sanitizeItems (.object members :: rest) =
      (sanitizeDict members).bind fun sanitized =>
        (sanitizeItems rest).map fun others => .object sanitized :: others := by
  rw [sanitizeItems]
  cases sanitizeDict members with
  | none => rfl
  | some sanitized =>
      cases sanitizeItems rest with
      | none => rfl
      | some others => rfl

/-- An item that is neither a dictionary nor a list stays. -/
theorem sanitizeItems_scalar_iff {item : Value} {rest : List Value}
    (hsanitize : sanitizeItems (item :: rest) =
      (sanitizeItems rest).map fun others => item :: others)
    (hremove : removeKeys isForbidden item = item)
    (hrest : sanitizeItems rest = some (removeItems isForbidden rest) <-> ItemsSanitizable rest) :
    sanitizeItems (item :: rest) = some (removeItems isForbidden (item :: rest)) <->
      ItemsSanitizable rest := by
  rw [hsanitize, removeItems, hremove, ← hrest, Option.map_eq_some_iff]
  constructor
  · intro h
    rcases h with ⟨others, hothers, heq⟩
    rw [hothers, (List.cons.inj heq).2]
  · intro h
    exact ⟨_, h, rfl⟩

end

/-!
## What is removed
-/

mutual

theorem sanitizeValue_iff : (value : Value) ->
    (sanitizeValue value = some (removeKeys isForbidden value) <-> Sanitizable value)
  | .object members => by
      rw [sanitizeValue, removeKeys, Sanitizable, ← sanitizeDict_iff members, Option.map_eq_some_iff]
      constructor
      · intro h
        rcases h with ⟨sanitized, hsanitized, heq⟩
        rw [hsanitized, Value.object.inj heq]
      · intro h
        exact ⟨_, h, rfl⟩
  | .array items => by
      rw [sanitizeValue, removeKeys, Sanitizable, ← sanitizeItems_iff items, Option.map_eq_some_iff]
      constructor
      · intro h
        rcases h with ⟨sanitized, hsanitized, heq⟩
        rw [hsanitized, Value.array.inj heq]
      · intro h
        exact ⟨_, h, rfl⟩
  | .null => ⟨fun _ => trivial, fun _ => rfl⟩
  | .bool _ => ⟨fun _ => trivial, fun _ => rfl⟩
  | .number _ => ⟨fun _ => trivial, fun _ => rfl⟩
  | .string _ => ⟨fun _ => trivial, fun _ => rfl⟩

theorem sanitizeDict_iff : (members : List (String × Value)) ->
    (sanitizeDict members = some (removeMembers isForbidden members) <->
      MembersSanitizable members)
  | [] => ⟨fun _ => trivial, fun _ => rfl⟩
  | (key, value) :: rest => by
      rw [removeMembers, MembersSanitizable, ← sanitizeValue_iff value, ← sanitizeDict_iff rest]
      rcases Classical.em (key = "") with hempty | hne
      · rw [hempty, sanitizeDict_empty]
        constructor
        · intro h
          cases h
        · intro h
          exact absurd rfl h.1
      · rcases Bool.eq_false_or_eq_true (isForbidden key) with hforbidden | hkept
        · rw [if_pos hforbidden, sanitizeDict_forbidden hforbidden]
          constructor
          · intro h
            refine ⟨hne, ?_, h⟩
            intro hkept
            rw [hforbidden] at hkept
            cases hkept
          · intro h
            exact h.2.2
        · rw [hkept, if_neg Bool.false_ne_true, sanitizeDict_kept hne hkept, Option.bind_eq_some_iff]
          constructor
          · intro h
            rcases h with ⟨sanitized, hvalue, h⟩
            rcases Option.map_eq_some_iff.mp h with ⟨others, hrest, heq⟩
            rcases List.cons.inj heq with ⟨hhead, htail⟩
            rw [hvalue, hrest, htail, (Prod.mk.inj hhead).2]
            exact ⟨hne, fun _ => rfl, rfl⟩
          · intro h
            exact ⟨_, h.2.1 rfl, by rw [h.2.2, Option.map_some]⟩

theorem sanitizeItems_iff : (items : List Value) ->
    (sanitizeItems items = some (removeItems isForbidden items) <-> ItemsSanitizable items)
  | [] => ⟨fun _ => trivial, fun _ => rfl⟩
  | .object members :: rest => by
      rw [removeItems, removeKeys, ItemsSanitizable, ← sanitizeDict_iff members,
        ← sanitizeItems_iff rest, sanitizeItems_object, Option.bind_eq_some_iff]
      constructor
      · intro h
        rcases h with ⟨sanitized, hmembers, h⟩
        rcases Option.map_eq_some_iff.mp h with ⟨others, hrest, heq⟩
        rcases List.cons.inj heq with ⟨hhead, htail⟩
        rw [hmembers, hrest, htail, Value.object.inj hhead]
        exact ⟨rfl, rfl⟩
      · intro h
        exact ⟨_, h.1, by rw [h.2, Option.map_some]⟩
  | .array items :: rest => by
      rw [removeItems, removeKeys, ItemsSanitizable, ← removeItems_eq_self_iff,
        ← sanitizeItems_iff rest]
      show (sanitizeItems rest).map _ = _ <-> _
      rw [Option.map_eq_some_iff]
      constructor
      · intro h
        rcases h with ⟨others, hrest, heq⟩
        rcases List.cons.inj heq with ⟨hhead, htail⟩
        rw [hrest, htail, ← Value.array.inj hhead]
        exact ⟨rfl, rfl⟩
      · intro h
        exact ⟨_, h.2, by rw [h.1]⟩
  | .null :: rest => sanitizeItems_scalar_iff rfl rfl (sanitizeItems_iff rest)
  | .bool _ :: rest => sanitizeItems_scalar_iff rfl rfl (sanitizeItems_iff rest)
  | .number _ :: rest => sanitizeItems_scalar_iff rfl rfl (sanitizeItems_iff rest)
  | .string _ :: rest => sanitizeItems_scalar_iff rfl rfl (sanitizeItems_iff rest)

end

/-!
## What is left
-/

mutual

theorem sanitizable_removeKeys : (value : Value) -> Sanitizable value ->
    Sanitizable (removeKeys isForbidden value)
  | .object members, h => membersSanitizable_removeMembers members h
  | .array items, h => itemsSanitizable_removeItems items h
  | .null, _ => trivial
  | .bool _, _ => trivial
  | .number _, _ => trivial
  | .string _, _ => trivial

theorem membersSanitizable_removeMembers : (members : List (String × Value)) ->
    MembersSanitizable members -> MembersSanitizable (removeMembers isForbidden members)
  | [], _ => trivial
  | (key, value) :: rest, ⟨hne, hvalue, hrest⟩ => by
      rw [removeMembers]
      split
      · exact membersSanitizable_removeMembers rest hrest
      · exact ⟨hne, fun hkept => sanitizable_removeKeys value (hvalue hkept),
          membersSanitizable_removeMembers rest hrest⟩

theorem itemsSanitizable_removeItems : (items : List Value) -> ItemsSanitizable items ->
    ItemsSanitizable (removeItems isForbidden items)
  | [], _ => trivial
  | .object members :: rest, ⟨hmembers, hrest⟩ =>
      ⟨membersSanitizable_removeMembers members hmembers, itemsSanitizable_removeItems rest hrest⟩
  | .array items :: rest, ⟨_, hrest⟩ =>
      ⟨itemsFreeOf_removeItems items, itemsSanitizable_removeItems rest hrest⟩
  | .null :: rest, h => itemsSanitizable_removeItems rest h
  | .bool _ :: rest, h => itemsSanitizable_removeItems rest h
  | .number _ :: rest, h => itemsSanitizable_removeItems rest h
  | .string _ :: rest, h => itemsSanitizable_removeItems rest h

end

/-- A payload is sanitized at every depth exactly where no key that is looked at is empty and no
list in a list has a forbidden key. -/
theorem sanitizes_iff (payload : List (String × Value)) :
    Sanitizes payload <-> MembersSanitizable payload := by
  constructor
  · intro h
    exact (sanitizeDict_iff payload).mp h.removes
  · intro h
    have hremoves := (sanitizeDict_iff payload).mpr h
    refine ⟨hremoves, ?_⟩
    intro sanitized hsanitized
    rw [hremoves] at hsanitized
    have hagain := (sanitizeDict_iff _).mpr (membersSanitizable_removeMembers payload h)
    rw [removeMembers_removeMembers] at hagain
    rw [← Option.some.inj hsanitized]
    exact hagain

/-- `{"points": [[{"@id": null}]]}` -/
def nestedPayload : List (String × Value) :=
  [("points", .array [.array [.object [("@id", .null)]]])]

/-- `{"": null}` -/
def emptyKeyPayload : List (String × Value) := [("", .null)]

/-- A forbidden key in a list in a list stays, and an empty key is an `IndexError`. -/
theorem payloads_not_sanitizes : ¬ Sanitizes nestedPayload ∧ ¬ Sanitizes emptyKeyPayload := by
  constructor
  · intro h
    have hkept : sanitizeDict nestedPayload = some nestedPayload := rfl
    have hremoves := h.removes
    rw [hkept] at hremoves
    cases hremoves
  · intro h
    have hremoves := h.removes
    rw [emptyKeyPayload, sanitizeDict_empty] at hremoves
    cases hremoves

end Rules
end KeepGateway
