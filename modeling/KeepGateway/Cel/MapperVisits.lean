import KeepGateway.Cel.PropertiesMapper
import KeepGateway.Lib.Except

/-!
# Visits of the mapper

A successful visit of the properties mapper as a derivation, one rule for each kind of
node.  What holds of every mapped tree is proved by induction on the derivation.
-/

namespace KeepGateway
namespace Cel

def Node.isProperty : Node -> Bool
  | .propertyAccess _ => true
  | _ => false

/-- The fields of the operand of a unary node, where the second visit adds them again. -/
def visitedAgain (m : Mapped) : List PropertyMetadataInfo :=
  m.2 ++ if m.1.isSome then m.2 else []

inductive Visits (rt : Runtime) (metadata : PropertiesMetadata) : Node -> Mapped -> Prop where
  | parenthesis {expression : Node} {m : Mapped} :
      Visits rt metadata expression m -> Visits rt metadata (.parenthesis expression) m
  | logical {left right : Node} {op : LogicalNodeOperator} {l r : Mapped} :
      Visits rt metadata left l -> Visits rt metadata right r ->
        Visits rt metadata (.logical left op right) (joinLogical l.1 op r.1, l.2 ++ r.2)
  | mappedComparison {property : PropertyAccessNode} {op : ComparisonNodeOperator}
      {second : Node} {mapped : Node × PropertyMetadataInfo} :
      mapProperty metadata true property = .ok mapped ->
        Visits rt metadata (.comparison (.propertyAccess property) op second)
          (modifyComparisonNode rt mapped.1 op second mapped.2, [mapped.2])
  | comparison {first second : Node} {op : ComparisonNodeOperator} :
      first.isProperty = false ->
        Visits rt metadata (.comparison first op second)
          (some (.comparison first op second), [])
  | property {property : PropertyAccessNode} {mapped : Node × PropertyMetadataInfo} :
      mapProperty metadata true property = .ok mapped ->
        Visits rt metadata (.propertyAccess property)
          (some (truthiness mapped.1 mapped.2), [mapped.2])
  | hasProperty {property : PropertyAccessNode} {mapped : Node × PropertyMetadataInfo} :
      mapProperty metadata false property = .ok mapped ->
        Visits rt metadata (.unary .has (.propertyAccess property))
          (some (.unary .has mapped.1), [mapped.2])
  | unary {op : UnaryNodeOperator} {operand : Node} {m : Mapped} :
      (op = .has -> operand.isProperty = false) -> Visits rt metadata operand m ->
        Visits rt metadata (.unary op operand) (some (joinUnary op m.1), visitedAgain m)
  | constant {value : Value} : Visits rt metadata (.constant value) (some (.constant value), [])

variable {rt : Runtime} {metadata : PropertiesMetadata}

theorem isProperty_eq_false {x : Node} (h : forall property, x = .propertyAccess property -> False) :
    x.isProperty = false := by
  cases x with
  | propertyAccess property => exact (h property rfl).elim
  | _ => rfl

theorem visits_of_visitNodes {x : Node} {m : Mapped} (h : visitNodes rt metadata x = .ok m) :
    Visits rt metadata x m := by
  induction x using visitNodes.induct generalizing m with
  | case1 expression ih =>
      rw [visitNodes] at h
      exact .parenthesis (ih h)
  | case2 left op right ihleft ihright =>
      rw [visitNodes] at h
      rcases bind_eq_ok.mp h with ⟨l, hl, h⟩
      rcases bind_eq_ok.mp h with ⟨r, hr, h⟩
      cases h
      exact .logical (ihleft hl) (ihright hr)
  | case3 property op second =>
      rw [visitNodes] at h
      rcases bind_eq_ok.mp h with ⟨mapped, hmapped, h⟩
      cases h
      exact .mappedComparison hmapped
  | case4 first op second hfirst =>
      rw [visitNodes] at h
      · cases h
        exact .comparison (isProperty_eq_false hfirst)
      · exact hfirst
  | case5 property =>
      rw [visitNodes] at h
      rcases bind_eq_ok.mp h with ⟨mapped, hmapped, h⟩
      cases h
      exact .property hmapped
  | case6 property =>
      rw [visitNodes] at h
      rcases bind_eq_ok.mp h with ⟨mapped, hmapped, h⟩
      cases h
      exact .hasProperty hmapped
  | case7 op operand hoperand ih =>
      rw [visitNodes] at h
      · rcases bind_eq_ok.mp h with ⟨visited, hvisited, h⟩
        cases h
        refine .unary ?_ (ih hvisited)
        intro hop
        exact isProperty_eq_false fun property => hoperand property hop
      · exact hoperand
  | case8 value =>
      rw [visitNodes] at h
      cases h
      exact .constant
  | case9 x _ _ _ _ _ _ _ _ =>
      rw [visitNodes] at h
      · cases h
      all_goals assumption

/-- The visit that `map_props_in_ast` makes, with the fields before repetitions leave. -/
theorem visits_of_mapPropsInAst {x : Node} {m : Mapped}
    (h : mapPropsInAst rt metadata x = .ok m) :
    exists fields, Visits rt metadata x (m.1, fields) ∧ m.2 = distinctFields fields := by
  rcases bind_eq_ok.mp h with ⟨mapped, hmapped, h⟩
  cases h
  exact ⟨mapped.2, visits_of_visitNodes hmapped, rfl⟩

/-- What mapping a property gives where every property must be known. -/
theorem mapProperty_eq_ok {property : PropertyAccessNode} {mapped : Node × PropertyMetadataInfo}
    (h : mapProperty metadata true property = .ok mapped) :
    exists path dataType, property = .simple path dataType ∧
      metadata.getPropertyMetadata path = .ok (some mapped.2) ∧
      mappedFields mapped.2 = .ok mapped.1 := by
  cases property with
  | json column path dataType => cases h
  | simple path dataType =>
      rcases bind_eq_ok.mp h with ⟨info, hinfo, h⟩
      cases info with
      | none => cases h
      | some info =>
          rcases bind_eq_ok.mp h with ⟨fields, hfields, h⟩
          cases h
          exact ⟨path, dataType, rfl, hinfo, hfields⟩

/-!
## Rewritten order comparisons
-/

/-- What becomes of a comparison of an enumerated field with a constant. -/
inductive Rewritten (first : Node) (op : ComparisonNodeOperator) (value : Value) :
    Option Node -> Prop where
  | everyRow : op = .le -> Rewritten first op value none
  | noRow : op = .gt -> Rewritten first op value (some (.constant (.bool false)))
  | inEnum {values : List String} :
      values ≠ [] -> Rewritten first op value (some (inEnum first values))
  | notInEnum {values : List String} :
      values ≠ [] -> Rewritten first op value (some (notInEnum first values))
  | kept : op ≠ .lt -> op ≠ .le -> op ≠ .gt -> op ≠ .ge ->
      Rewritten first op value (some (.comparison first op (.constant value)))

theorem enumIndex_lt {enumValues : List String} {value : Value} {index : Nat}
    (h : enumIndex enumValues value = some index) : index < enumValues.length := by
  cases value with
  | str s => exact (List.idxOf?_eq_some_iff.mp h).1
  | _ => cases h

theorem drop_ne_nil {enumValues : List String} {index : Nat} (h : index < enumValues.length) :
    enumValues.drop index ≠ [] := by
  intro hnil
  exact Nat.not_le.mpr h (List.drop_eq_nil_iff.mp hnil)

theorem rewritten_rewriteEnumOrder (first : Node) (op : ComparisonNodeOperator) (value : Value)
    {enumValues : List String} (hne : enumValues ≠ []) :
    Rewritten first op value (rewriteEnumOrder first op value enumValues) := by
  cases hindex : enumIndex enumValues value with
  | none =>
      unfold rewriteEnumOrder
      rw [hindex]
      cases op with
      | lt => exact .notInEnum hne
      | le => exact .notInEnum hne
      | gt => exact .inEnum hne
      | ge => exact .inEnum hne
      | _ => exact .kept (by decide) (by decide) (by decide) (by decide)
  | some index =>
      have hlt := enumIndex_lt hindex
      unfold rewriteEnumOrder
      rw [hindex]
      cases op with
      | lt => exact .notInEnum (drop_ne_nil hlt)
      | ge => exact .inEnum (drop_ne_nil hlt)
      | le =>
          simp only
          split
          · exact .everyRow rfl
          · rename_i hnext
            exact .notInEnum (drop_ne_nil (Nat.not_le.mp hnext))
      | gt =>
          simp only
          split
          · exact .noRow rfl
          · rename_i hnext
            exact .inEnum (drop_ne_nil (Nat.not_le.mp hnext))
      | _ => exact .kept (by decide) (by decide) (by decide) (by decide)

theorem rewriteEnumOrder_eq_none {first : Node} {op : ComparisonNodeOperator} {value : Value}
    {enumValues : List String} :
    rewriteEnumOrder first op value enumValues = none <->
      op = .le ∧ exists index, enumIndex enumValues value = some index ∧
        enumValues.length <= index + 1 := by
  cases hindex : enumIndex enumValues value with
  | none =>
      unfold rewriteEnumOrder
      rw [hindex]
      cases op <;> simp
  | some index =>
      unfold rewriteEnumOrder
      rw [hindex]
      cases op with
      | gt =>
          simp only
          split <;> simp
      | _ => simp

/-!
## Mapped comparisons
-/

/-- The second operand of a mapped comparison. -/
def canonicalOperand (rt : Runtime) (op : ComparisonNodeOperator) (second : Node)
    (info : PropertyMetadataInfo) : Node :=
  if info.enumValues ≠ [] ∧ op.canonicalizesEnums = true then
    canonicalizeEnumOperand rt info.enumValues second
  else second

/-- An enumerated field is rewritten where it is compared with a constant. -/
inductive Modified (rt : Runtime) (first : Node) (op : ComparisonNodeOperator) (second : Node)
    (info : PropertyMetadataInfo) : Option Node -> Prop where
  | rewritten {original value : Value} {x : Option Node} :
      second = .constant original -> canonicalOperand rt op second info = .constant value ->
        info.enumValues ≠ [] -> x = rewriteEnumOrder first op value info.enumValues ->
          Rewritten first op value x -> Modified rt first op second info x
  | kept :
      (info.enumValues = [] ∨ forall value, second ≠ .constant value) ->
        Modified rt first op second info
          (some (.comparison first op (canonicalOperand rt op second info)))

/-- Constants are exactly what stays constant. -/
theorem canonicalOperand_eq_constant {rt : Runtime} {op : ComparisonNodeOperator} {second : Node}
    {info : PropertyMetadataInfo} {value : Value}
    (h : canonicalOperand rt op second info = .constant value) :
    exists original, second = .constant original := by
  unfold canonicalOperand at h
  split at h
  · cases second with
    | constant original => exact ⟨original, rfl⟩
    | _ => cases h
  · exact ⟨value, h⟩

theorem canonicalOperand_constant (rt : Runtime) (op : ComparisonNodeOperator) (original : Value)
    (info : PropertyMetadataInfo) :
    exists value, canonicalOperand rt op (.constant original) info = .constant value := by
  unfold canonicalOperand
  split
  · exact ⟨_, rfl⟩
  · exact ⟨_, rfl⟩

theorem modifyComparisonNode_constant {rt : Runtime} {first second : Node}
    {op : ComparisonNodeOperator} {info : PropertyMetadataInfo} {value : Value}
    (h : canonicalOperand rt op second info = .constant value) :
    modifyComparisonNode rt first op second info =
      if info.enumValues ≠ [] then rewriteEnumOrder first op value info.enumValues
      else some (.comparison first op (.constant value)) := by
  unfold canonicalOperand at h
  unfold modifyComparisonNode
  rw [h]

theorem modifyComparisonNode_other {rt : Runtime} {first second : Node}
    {op : ComparisonNodeOperator} {info : PropertyMetadataInfo}
    (h : forall value, canonicalOperand rt op second info ≠ .constant value) :
    modifyComparisonNode rt first op second info =
      some (.comparison first op (canonicalOperand rt op second info)) := by
  unfold modifyComparisonNode
  unfold canonicalOperand at h ⊢
  dsimp only
  split
  · rename_i value hvalue
    exact absurd hvalue (h value)
  · rfl

theorem modified_modifyComparisonNode (rt : Runtime) (first : Node) (op : ComparisonNodeOperator)
    (second : Node) (info : PropertyMetadataInfo) :
    Modified rt first op second info (modifyComparisonNode rt first op second info) := by
  rcases Classical.em (exists value, canonicalOperand rt op second info = .constant value)
    with ⟨value, hvalue⟩ | hnot
  · rw [modifyComparisonNode_constant hvalue]
    split
    · rename_i hne
      rcases canonicalOperand_eq_constant hvalue with ⟨original, horiginal⟩
      exact .rewritten horiginal hvalue hne rfl (rewritten_rewriteEnumOrder first op value hne)
    · rename_i hempty
      rw [← hvalue]
      exact .kept (Or.inl (not_not.mp hempty))
  · rw [modifyComparisonNode_other fun value hvalue => hnot ⟨value, hvalue⟩]
    refine .kept (Or.inr ?_)
    intro original horiginal
    rw [horiginal] at hnot
    exact hnot (canonicalOperand_constant rt op original info)

theorem canonicalOperand_le {rt : Runtime} {original : Value} {info : PropertyMetadataInfo}
    (hne : info.enumValues ≠ []) :
    canonicalOperand rt .le (.constant original) info =
      .constant (canonicalizeEnumValue rt info.enumValues original) := by
  unfold canonicalOperand
  exact if_pos ⟨hne, rfl⟩

/-- A comparison is dropped where it asks for at most the last enumerated value. -/
theorem modifyComparisonNode_eq_none {rt : Runtime} {first second : Node}
    {op : ComparisonNodeOperator} {info : PropertyMetadataInfo} :
    modifyComparisonNode rt first op second info = none <->
      op = .le ∧ exists original index, second = .constant original ∧
        enumIndex info.enumValues (canonicalizeEnumValue rt info.enumValues original) =
          some index ∧
        info.enumValues.length <= index + 1 := by
  constructor
  · intro h
    have hmodified := modified_modifyComparisonNode rt first op second info
    rw [h] at hmodified
    cases hmodified with
    | rewritten hsecond hvalue hne hx _ =>
        rcases rewriteEnumOrder_eq_none.mp hx.symm with ⟨hop, index, hindex, hlength⟩
        subst hop
        rw [hsecond, canonicalOperand_le hne] at hvalue
        cases hvalue
        exact ⟨rfl, _, index, hsecond, hindex, hlength⟩
  · rintro ⟨hop, original, index, hsecond, hindex, hlength⟩
    subst hop hsecond
    have hne : info.enumValues ≠ [] := by
      intro hnil
      have hlt := enumIndex_lt hindex
      rw [hnil] at hlt
      cases hlt
    have hdropped : rewriteEnumOrder first .le
        (canonicalizeEnumValue rt info.enumValues original) info.enumValues = none :=
      rewriteEnumOrder_eq_none.mpr ⟨rfl, index, hindex, hlength⟩
    rw [modifyComparisonNode_constant (canonicalOperand_le hne), if_pos hne]
    exact hdropped

/-!
## Fields without repetition
-/

/-- The names of the fields are kept. -/
theorem mem_names_distinctFields {fields : List PropertyMetadataInfo} {name : String} :
    name ∈ (distinctFields fields).map PropertyMetadataInfo.fieldName <->
      name ∈ fields.map PropertyMetadataInfo.fieldName := by
  have hkeyed : forall (acc : List (String × PropertyMetadataInfo)),
      (forall e, e ∈ acc -> e.1 = e.2.fieldName) ->
      let dict := fields.foldl (fun acc field => Dict.set field.fieldName field acc) acc
      (forall e, e ∈ dict -> e.1 = e.2.fieldName) ∧
        (name ∈ dict.map Prod.fst <->
          name ∈ acc.map Prod.fst ∨ name ∈ fields.map PropertyMetadataInfo.fieldName) := by
    induction fields with
    | nil =>
        intro acc hacc
        exact ⟨hacc, by simp⟩
    | cons field rest ih =>
        intro acc hacc
        have hset : forall e, e ∈ Dict.set field.fieldName field acc -> e.1 = e.2.fieldName := by
          intro e he
          rcases Dict.mem_set he with heq | hold
          · rw [heq]
          · exact hacc e hold
        rcases ih (Dict.set field.fieldName field acc) hset with ⟨hkeys, hnames⟩
        refine ⟨hkeys, hnames.trans ?_⟩
        rw [Dict.mem_keys_set, List.map_cons, List.mem_cons]
        tauto
  rcases hkeyed [] (by simp) with ⟨hkeys, hnames⟩
  have hsame : (distinctFields fields).map PropertyMetadataInfo.fieldName =
      (fields.foldl (fun acc field => Dict.set field.fieldName field acc) []).map Prod.fst := by
    unfold distinctFields
    rw [List.map_map]
    apply List.map_congr_left
    intro e he
    exact (hkeys e he).symm
  rw [hsame, hnames]
  simp

end Cel
end KeepGateway
