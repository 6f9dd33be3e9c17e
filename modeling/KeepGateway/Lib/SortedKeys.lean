import KeepGateway.Lib.Dict
import KeepGateway.Lib.JsonUnique
import Mathlib.Data.List.Sort

/-!
# JSON texts with sorted keys

`json.dumps(value, sort_keys=True)`: values that differ only in the order of the members of
their objects have one text, and others have different ones.
-/

namespace KeepGateway
namespace JsonText

/-- The members in the order of their keys. -/
def inOrder (members : List (String × Value)) : List (String × Value) :=
  members.insertionSort fun a b => a.1 ≤ b.1

mutual

/-- The value with the members of all its objects in the order of their keys. -/
def Value.sorted : Value -> Value
  | .array items => .array (sortedItems items)
  | .object members => .object (inOrder (sortedMembers members))
  | value => value

def sortedItems : List Value -> List Value
  | [] => []
  | item :: rest => item.sorted :: sortedItems rest

def sortedMembers : List (String × Value) -> List (String × Value)
  | [] => []
  | (key, value) :: rest => (key, value.sorted) :: sortedMembers rest

end

/-!
## Readable values
-/

theorem readableMembers_iff {members : List (String × Value)} :
    ReadableMembers members <-> forall m, m ∈ members -> m.2.Readable := by
  induction members with
  | nil => simp [ReadableMembers]
  | cons m rest ih => rw [ReadableMembers, ih, List.forall_mem_cons]

theorem readable_inOrder {members : List (String × Value)} (h : ReadableMembers members) :
    ReadableMembers (inOrder members) := by
  rw [readableMembers_iff] at h ⊢
  intro m hm
  exact h m ((List.perm_insertionSort _ members).mem_iff.mp hm)

mutual

theorem readable_sorted : (v : Value) -> v.Readable -> v.sorted.Readable
  | .null, h => h
  | .bool _, h => h
  | .number _, h => h
  | .string _, h => h
  | .array items, h => readable_sortedItems items h
  | .object members, h => readable_inOrder (readable_sortedMembers members h)

theorem readable_sortedItems : (items : List Value) -> ReadableItems items ->
    ReadableItems (sortedItems items)
  | [], h => h
  | item :: rest, h => ⟨readable_sorted item h.1, readable_sortedItems rest h.2⟩

theorem readable_sortedMembers : (members : List (String × Value)) -> ReadableMembers members ->
    ReadableMembers (sortedMembers members)
  | [], h => h
  | (_, value) :: rest, h => ⟨readable_sorted value h.1, readable_sortedMembers rest h.2⟩

end

theorem dumps_sorted_inj {v w : Value} (hv : v.Readable) (hw : w.Readable) :
    dumps v.sorted = dumps w.sorted <-> v.sorted = w.sorted :=
  dumps_inj (readable_sorted v hv) (readable_sorted w hw)

/-!
## Objects as dictionaries
-/

theorem sortedMembers_eq_map (members : List (String × Value)) :
    sortedMembers members = members.map fun m => (m.1, m.2.sorted) := by
  induction members with
  | nil => rfl
  | cons m rest ih => rw [sortedMembers, ih, List.map_cons]

theorem distinct_sortedMembers {members : List (String × Value)} (h : Dict.Distinct members) :
    Dict.Distinct (sortedMembers members) := by
  unfold Dict.Distinct
  rw [sortedMembers_eq_map, List.map_map]
  exact h

theorem lookup_sortedMembers (members : List (String × Value)) (key : String) :
    (sortedMembers members).lookup key = (members.lookup key).map Value.sorted := by
  induction members with
  | nil => rfl
  | cons m rest ih =>
      rcases m with ⟨k, v⟩
      rw [sortedMembers, Dict.lookup_cons_eq, Dict.lookup_cons_eq, ih]
      split <;> rfl

theorem pairwise_inOrder (members : List (String × Value)) :
    (inOrder members).Pairwise fun a b => a.1 ≤ b.1 := by
  have htotal : Std.Total fun a b : String × Value => a.1 ≤ b.1 := ⟨fun a b => le_total a.1 b.1⟩
  have htrans : IsTrans (String × Value) fun a b => a.1 ≤ b.1 := ⟨fun _ _ _ => le_trans⟩
  exact List.pairwise_insertionSort _ members

theorem inOrder_eq_iff {a b : List (String × Value)} (ha : Dict.Distinct a)
    (hb : Dict.Distinct b) : inOrder a = inOrder b <-> forall key, a.lookup key = b.lookup key := by
  have hperm : a.Perm b <-> forall key, a.lookup key = b.lookup key := by
    rw [List.perm_ext_iff_of_nodup ha.of_map hb.of_map]
    constructor
    · intro hmem key
      apply Option.ext
      intro value
      rw [ha.lookup, hb.lookup]
      exact hmem (key, value)
    · intro hlookup m
      rw [← ha.lookup, ← hb.lookup, hlookup]
  rw [← hperm]
  constructor
  · intro h
    have hsorted : (inOrder a).Perm b := by
      rw [h]
      exact List.perm_insertionSort _ b
    exact (List.perm_insertionSort _ a).symm.trans hsorted
  · intro h
    have hsame : (inOrder a).Perm (inOrder b) :=
      (List.perm_insertionSort _ a).trans (h.trans (List.perm_insertionSort _ b).symm)
    apply List.Perm.eq_of_pairwise _ (pairwise_inOrder a) (pairwise_inOrder b) hsame
    intro m m' hm hm' hle hge
    have hmem := h.mem_iff.mp ((List.perm_insertionSort _ a).mem_iff.mp hm)
    have hmem' := (List.perm_insertionSort _ b).mem_iff.mp hm'
    exact List.inj_on_of_nodup_map hb hmem hmem' (le_antisymm hle hge)

/-- Objects are equal up to the order of their members when each member is. -/
theorem sorted_object_eq_iff {a b : List (String × Value)} (ha : Dict.Distinct a)
    (hb : Dict.Distinct b) :
    (Value.object a).sorted = (Value.object b).sorted <->
      forall key, (a.lookup key).map Value.sorted = (b.lookup key).map Value.sorted := by
  rw [Value.sorted, Value.sorted, Value.object.injEq,
    inOrder_eq_iff (distinct_sortedMembers ha) (distinct_sortedMembers hb)]
  simp only [lookup_sortedMembers]

end JsonText
end KeepGateway
