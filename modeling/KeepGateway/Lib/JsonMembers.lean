import KeepGateway.Lib.JsonText

/-!
# Members of JSON objects

Removing the members with certain keys from the objects in a value, at every depth.
-/

namespace KeepGateway
namespace JsonText

section

variable (p : String -> Bool)

mutual

/-- The value without the members whose keys satisfy the predicate. -/
def removeKeys : Value -> Value
  | .object members => .object (removeMembers members)
  | .array items => .array (removeItems items)
  | value => value

def removeMembers : List (String × Value) -> List (String × Value)
  | [] => []
  | (key, value) :: rest =>
      if p key then removeMembers rest else (key, removeKeys value) :: removeMembers rest

def removeItems : List Value -> List Value
  | [] => []
  | item :: rest => removeKeys item :: removeItems rest

end

mutual

/-- No object in the value has a member whose key satisfies the predicate. -/
def FreeOf : Value -> Prop
  | .object members => MembersFreeOf members
  | .array items => ItemsFreeOf items
  | _ => True

def MembersFreeOf : List (String × Value) -> Prop
  | [] => True
  | (key, value) :: rest => p key = false ∧ FreeOf value ∧ MembersFreeOf rest

def ItemsFreeOf : List Value -> Prop
  | [] => True
  | item :: rest => FreeOf item ∧ ItemsFreeOf rest

end

end

variable {p : String -> Bool}

mutual

theorem freeOf_removeKeys : (value : Value) -> FreeOf p (removeKeys p value)
  | .object members => by
      rw [removeKeys, FreeOf]
      exact membersFreeOf_removeMembers members
  | .array items => by
      rw [removeKeys, FreeOf]
      exact itemsFreeOf_removeItems items
  | .null => trivial
  | .bool _ => trivial
  | .number _ => trivial
  | .string _ => trivial

theorem membersFreeOf_removeMembers : (members : List (String × Value)) ->
    MembersFreeOf p (removeMembers p members)
  | [] => trivial
  | (key, value) :: rest => by
      rw [removeMembers]
      rcases Bool.eq_false_or_eq_true (p key) with hkey | hkey
      · rw [if_pos hkey]
        exact membersFreeOf_removeMembers rest
      · rw [hkey, if_neg Bool.false_ne_true]
        exact ⟨hkey, freeOf_removeKeys value, membersFreeOf_removeMembers rest⟩

theorem itemsFreeOf_removeItems : (items : List Value) -> ItemsFreeOf p (removeItems p items)
  | [] => trivial
  | item :: rest => ⟨freeOf_removeKeys item, itemsFreeOf_removeItems rest⟩

end

mutual

theorem removeKeys_of_freeOf : (value : Value) -> FreeOf p value -> removeKeys p value = value
  | .object members, h => by
      rw [removeKeys, removeMembers_of_freeOf members h]
  | .array items, h => by
      rw [removeKeys, removeItems_of_freeOf items h]
  | .null, _ => rfl
  | .bool _, _ => rfl
  | .number _, _ => rfl
  | .string _, _ => rfl

theorem removeMembers_of_freeOf : (members : List (String × Value)) ->
    MembersFreeOf p members -> removeMembers p members = members
  | [], _ => rfl
  | (key, value) :: rest, ⟨hkey, hvalue, hrest⟩ => by
      rw [removeMembers, hkey, if_neg Bool.false_ne_true, removeKeys_of_freeOf value hvalue,
        removeMembers_of_freeOf rest hrest]

theorem removeItems_of_freeOf : (items : List Value) -> ItemsFreeOf p items ->
    removeItems p items = items
  | [], _ => rfl
  | item :: rest, ⟨hitem, hrest⟩ => by
      rw [removeItems, removeKeys_of_freeOf item hitem, removeItems_of_freeOf rest hrest]

end

/-- Nothing is removed where there is nothing to remove, and only there. -/
theorem removeItems_eq_self_iff {items : List Value} :
    removeItems p items = items <-> ItemsFreeOf p items := by
  constructor
  · intro h
    rw [← h]
    exact itemsFreeOf_removeItems items
  · exact removeItems_of_freeOf items

theorem removeMembers_removeMembers (members : List (String × Value)) :
    removeMembers p (removeMembers p members) = removeMembers p members :=
  removeMembers_of_freeOf _ (membersFreeOf_removeMembers members)

end JsonText
end KeepGateway
