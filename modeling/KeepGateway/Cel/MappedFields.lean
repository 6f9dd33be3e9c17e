import KeepGateway.Cel.CelToSql
import KeepGateway.Cel.MapperVisits

/-!
# Mapped fields

Which property references of a filter are replaced by the columns of a known field.  The
mapper leaves the operands of a comparison alone, unless the first is itself a property.
-/

namespace KeepGateway
namespace Cel

/-!
## References
-/

/-- The operand of `has()` counts as no reference. -/
def Node.isHasOperand : Node -> Bool
  | .propertyAccess _ => true
  | .multipleFields _ _ => true
  | _ => false

mutual

/-- The columns and property references of a tree, other than operands of `has()`. -/
def Node.references : Node -> List PropertyAccessNode
  | .parenthesis expression => expression.references
  | .logical left _ right => left.references ++ right.references
  | .comparison first _ second => first.references ++ second.references
  | .unary .has operand => if operand.isHasOperand then [] else operand.references
  | .unary _ operand => operand.references
  | .propertyAccess property => [property]
  | .multipleFields fields _ => fields
  | .list items => Node.listReferences items
  | .dict left _ right => left.references ++ right.references
  | _ => []

def Node.listReferences : List Node -> List PropertyAccessNode
  | [] => []
  | item :: rest => item.references ++ Node.listReferences rest

end

/-- The references that the mapper looks up and must find. -/
def Node.visited : Node -> List PropertyAccessNode
  | .parenthesis expression => expression.visited
  | .logical left _ right => left.visited ++ right.visited
  | .comparison (.propertyAccess property) _ _ => [property]
  | .comparison _ _ _ => []
  | .unary .has operand => if operand.isProperty then [] else operand.visited
  | .unary _ operand => operand.visited
  | .propertyAccess property => [property]
  | _ => []

/-- The operands of `has()` that the mapper looks up. -/
def Node.hasOperands : Node -> List PropertyAccessNode
  | .parenthesis expression => expression.hasOperands
  | .logical left _ right => left.hasOperands ++ right.hasOperands
  | .unary .has (.propertyAccess property) => [property]
  | .unary _ operand => operand.hasOperands
  | _ => []

/-- The references in operands that the mapper leaves as they are. -/
def Node.skipped : Node -> List PropertyAccessNode
  | .parenthesis expression => expression.skipped
  | .logical left _ right => left.skipped ++ right.skipped
  | .comparison (.propertyAccess _) _ second => second.references
  | .comparison first _ second => first.references ++ second.references
  | .unary .has operand => if operand.isProperty then [] else operand.skipped
  | .unary _ operand => operand.skipped
  | _ => []

/-- The columns of a field. -/
def PropertyMetadataInfo.columns (info : PropertyMetadataInfo) : List PropertyAccessNode :=
  info.fieldMappings.map (createPropertyAccessNode info.dataType)

def PropertiesMetadata.IsField (metadata : PropertiesMetadata) (path : List String)
    (info : PropertyMetadataInfo) : Prop :=
  metadata.getPropertyMetadata path = .ok (some info)

def Listed (involvedFields : List PropertyMetadataInfo) (name : String) : Prop :=
  name ∈ involvedFields.map PropertyMetadataInfo.fieldName

namespace Provider

variable (p : Provider)

/-- The columns that the condition for a query is built from. -/
def columnsOf (originalQuery : Node) : List PropertyAccessNode :=
  match p.mapQuery originalQuery with
  | .ok (some mapped, _) => mapped.references
  | _ => []

/-- Every reference is one of a known field that is listed, and every column of the condition
is a column of a known field that is listed. -/
structure EveryFieldMapped (originalQuery : Node)
    (involvedFields : List PropertyMetadataInfo) : Prop where
  references : forall property, property ∈ originalQuery.references ->
    exists path dataType info, property = .simple path dataType ∧
      p.metadata.IsField path info ∧ Listed involvedFields info.fieldName
  columns : forall column, column ∈ p.columnsOf originalQuery ->
    exists path info, p.metadata.IsField path info ∧ Listed involvedFields info.fieldName ∧
      column ∈ info.columns

/-- The name under which a reference that is looked up is listed. -/
def listedName (metadata : PropertiesMetadata) : PropertyAccessNode -> String
  | .simple path _ =>
      match metadata.getPropertyMetadata path with
      | .ok (some info) => info.fieldName
      | _ => ".".intercalate path
  | .json column _ _ => column

/-- A field that the query names in a place where the mapper looks. -/
def Named (originalQuery : Node) (name : String) : Prop :=
  exists property, property ∈ originalQuery.visited ++ originalQuery.hasOperands ∧
    listedName p.metadata property = name

/-- A reference to a field that is named elsewhere, spelled like a column of such a field. -/
structure ReadsAsColumn (originalQuery : Node) (property : PropertyAccessNode) : Prop where
  known : exists path dataType info, property = .simple path dataType ∧
    p.metadata.IsField path info ∧ p.Named originalQuery info.fieldName
  column : exists path info, p.metadata.IsField path info ∧
    p.Named originalQuery info.fieldName ∧ property ∈ info.columns

/-- Whether a comparison with an enumerated field is met by every row. -/
def meetsEveryRow (rt : Runtime) (metadata : PropertiesMetadata) (property : PropertyAccessNode)
    (op : ComparisonNodeOperator) (second : Node) : Bool :=
  match property, op, second with
  | .simple path _, .le, .constant value =>
      match metadata.getPropertyMetadata path with
      | .ok (some info) =>
          match enumIndex info.enumValues (canonicalizeEnumValue rt info.enumValues value) with
          | some index => info.enumValues.length <= index + 1
          | none => false
      | _ => false
  | _, _, _ => false

/-- Whether nothing is left to filter. -/
def vacuous : Node -> Bool
  | .parenthesis expression => vacuous expression
  | .logical left _ right => vacuous left && vacuous right
  | .comparison (.propertyAccess property) op second =>
      meetsEveryRow p.rt p.metadata property op second
  | _ => false

end Provider

/-!
## References of mapped trees
-/

def optionReferences : Option Node -> List PropertyAccessNode
  | some x => x.references
  | none => []

theorem references_mappedFields {info : PropertyMetadataInfo} {fields : Node}
    (h : mappedFields info = .ok fields) :
    fields.references = info.columns ∧ fields.isHasOperand = true := by
  unfold mappedFields at h
  unfold PropertyMetadataInfo.columns
  split at h
  · cases h
  · rename_i field hfield
    cases h
    rw [hfield]
    exact ⟨rfl, rfl⟩
  · cases h
    exact ⟨rfl, rfl⟩

theorem references_canonicalizeEnumOperand (rt : Runtime) (enumValues : List String) (x : Node) :
    (canonicalizeEnumOperand rt enumValues x).references = x.references := by
  cases x with
  | list items =>
      show Node.listReferences (items.map (canonicalizeEnumItem rt enumValues)) =
        Node.listReferences items
      induction items with
      | nil => rfl
      | cons item rest ih =>
          rw [List.map_cons, Node.listReferences, Node.listReferences, ih]
          cases item <;> rfl
  | _ => rfl

theorem listReferences_enumConstants (values : List String) :
    Node.listReferences (values.map fun item => .constant (.str item)) = [] := by
  induction values with
  | nil => rfl
  | cons value rest ih =>
      rw [List.map_cons, Node.listReferences, ih]
      rfl

theorem references_inEnum (first : Node) (values : List String) :
    (inEnum first values).references = first.references := by
  show first.references ++ Node.listReferences (values.map fun item => .constant (.str item)) = _
  rw [listReferences_enumConstants, List.append_nil]

theorem references_notInEnum (first : Node) (values : List String) :
    (notInEnum first values).references = first.references :=
  references_inEnum first values

/-- A comparison with a constant is about the columns of its first operand. -/
theorem references_rewritten {first : Node} {op : ComparisonNodeOperator} {value : Value}
    {x : Option Node} (h : Rewritten first op value x) :
    forall column, column ∈ optionReferences x -> column ∈ first.references := by
  intro column hcolumn
  cases h with
  | everyRow _ => cases hcolumn
  | noRow _ => cases hcolumn
  | inEnum _ => exact references_inEnum first _ ▸ hcolumn
  | notInEnum _ => exact references_notInEnum first _ ▸ hcolumn
  | kept _ _ _ _ => exact (List.append_nil first.references) ▸ hcolumn

theorem references_canonicalOperand (rt : Runtime) (op : ComparisonNodeOperator) (second : Node)
    (info : PropertyMetadataInfo) :
    (canonicalOperand rt op second info).references = second.references := by
  unfold canonicalOperand
  split
  · exact references_canonicalizeEnumOperand rt info.enumValues second
  · rfl

/-- The columns of a mapped comparison, and the references it keeps. -/
theorem references_modified {rt : Runtime} {first second : Node} {op : ComparisonNodeOperator}
    {info : PropertyMetadataInfo} {x : Option Node} (h : Modified rt first op second info x) :
    (forall column, column ∈ optionReferences x ->
      column ∈ first.references ∨ column ∈ second.references) ∧
      forall column, column ∈ second.references -> column ∈ optionReferences x := by
  cases h with
  | rewritten hsecond hvalue hne hx hrewritten =>
      rw [hsecond]
      exact ⟨fun column hcolumn => Or.inl (references_rewritten hrewritten column hcolumn),
        fun column hcolumn => (List.not_mem_nil hcolumn).elim⟩
  | kept _ =>
      have heq : optionReferences
          (some (.comparison first op (canonicalOperand rt op second info))) =
            first.references ++ second.references := by
        show first.references ++ (canonicalOperand rt op second info).references = _
        rw [references_canonicalOperand]
      rw [heq]
      exact ⟨fun column hcolumn => List.mem_append.mp hcolumn,
        fun column hcolumn => List.mem_append.mpr (Or.inr hcolumn)⟩

theorem references_truthiness (mapped : Node) (info : PropertyMetadataInfo) :
    forall column, column ∈ (truthiness mapped info).references -> column ∈ mapped.references := by
  have hfold : forall (values : List Value) (filter : Node),
      (forall column, column ∈ filter.references -> column ∈ mapped.references) ->
      forall column, column ∈ (values.foldl
        (fun filter falsy => Node.logical filter .and (notEqual mapped falsy)) filter).references ->
          column ∈ mapped.references := by
    intro values
    induction values with
    | nil =>
        intro filter hfilter
        exact hfilter
    | cons value rest ih =>
        intro filter hfilter
        apply ih
        intro column hcolumn
        rcases List.mem_append.mp hcolumn with hleft | hright
        · exact hfilter column hleft
        · exact (List.append_nil mapped.references) ▸ hright
  exact hfold _ _ fun column hcolumn => (List.append_nil mapped.references) ▸ hcolumn

theorem mem_references_joinLogical {left right : Option Node} {op : LogicalNodeOperator}
    {column : PropertyAccessNode} :
    column ∈ optionReferences (joinLogical left op right) <->
      column ∈ optionReferences left ∨ column ∈ optionReferences right := by
  cases left with
  | none => simp [joinLogical, optionReferences]
  | some left =>
      cases right with
      | none => simp [joinLogical, optionReferences]
      | some right => exact List.mem_append

/-!
## What a visit makes of the references
-/

section Visited

variable {rt : Runtime} {metadata : PropertiesMetadata} {x : Node} {m : Mapped}

/-- Only properties stand for columns, and they are never mapped to one. -/
theorem Visits.isHasOperand (h : Visits rt metadata x m) : x.isHasOperand = x.isProperty := by
  cases h <;> rfl

theorem isHasOperand_rewritten {first : Node} {op : ComparisonNodeOperator} {value : Value}
    {x : Option Node} (h : Rewritten first op value x) :
    forall y, x = some y -> y.isHasOperand = false := by
  intro y hy
  cases h <;> cases hy <;> rfl

theorem isHasOperand_truthiness (mapped : Node) (info : PropertyMetadataInfo) :
    (truthiness mapped info).isHasOperand = false := by
  unfold truthiness
  rcases info.dataType with _ | dataType
  · rfl
  · cases dataType <;> rfl

theorem isHasOperand_modified {first second : Node} {op : ComparisonNodeOperator}
    {info : PropertyMetadataInfo} {x : Option Node} (h : Modified rt first op second info x) :
    forall y, x = some y -> y.isHasOperand = false := by
  intro y hy
  cases h with
  | rewritten _ _ _ _ hrewritten => exact isHasOperand_rewritten hrewritten y hy
  | kept _ =>
      cases hy
      rfl

theorem Visits.mapped_isHasOperand (h : Visits rt metadata x m) :
    forall y, m.1 = some y -> y.isHasOperand = false := by
  induction h with
  | parenthesis _ ih => exact ih
  | @logical _ _ _ l r _ _ ihleft ihright =>
      intro y hy
      rcases l with ⟨left, _⟩
      rcases r with ⟨right, _⟩
      cases left with
      | none => exact ihright y hy
      | some left =>
          cases right with
          | none => exact ihleft y hy
          | some right =>
              cases hy
              rfl
  | @mappedComparison _ op second mapped _ =>
      exact isHasOperand_modified (modified_modifyComparisonNode rt mapped.1 op second mapped.2)
  | comparison _ =>
      intro y hy
      cases hy
      rfl
  | property _ =>
      intro y hy
      cases hy
      exact isHasOperand_truthiness _ _
  | hasProperty _ =>
      intro y hy
      cases hy
      rfl
  | @unary op _ m _ _ _ =>
      intro y hy
      cases hy
      cases m.1 <;> rfl
  | constant =>
      intro y hy
      cases hy
      rfl

theorem references_unary {op : UnaryNodeOperator} {operand : Node}
    (h : op = .has -> operand.isHasOperand = false) :
    (Node.unary op operand).references = operand.references := by
  cases op with
  | has => rw [Node.references, h rfl, if_neg Bool.false_ne_true]
  | not => simp only [Node.references]
  | neg => simp only [Node.references]

theorem visited_unary {op : UnaryNodeOperator} {operand : Node}
    (h : op = .has -> operand.isProperty = false) :
    (Node.unary op operand).visited = operand.visited ∧
      (Node.unary op operand).skipped = operand.skipped := by
  cases op with
  | has =>
      rw [Node.visited, Node.skipped, h rfl, if_neg Bool.false_ne_true, if_neg Bool.false_ne_true]
      exact ⟨rfl, rfl⟩
  | _ => exact ⟨rfl, rfl⟩

theorem visited_comparison {first second : Node} {op : ComparisonNodeOperator}
    (h : first.isProperty = false) :
    (Node.comparison first op second).visited = [] ∧
      (Node.comparison first op second).skipped = first.references ++ second.references := by
  cases first with
  | propertyAccess property => cases h
  | _ => exact ⟨rfl, rfl⟩

/-- Every reference is looked up or left alone. -/
theorem Visits.mem_references (h : Visits rt metadata x m) (property : PropertyAccessNode) :
    property ∈ x.references <-> property ∈ x.visited ∨ property ∈ x.skipped := by
  induction h with
  | parenthesis _ ih =>
      rw [Node.references, Node.visited, Node.skipped]
      exact ih
  | logical _ _ ihleft ihright =>
      rw [Node.references, Node.visited, Node.skipped]
      rw [List.mem_append, List.mem_append, List.mem_append, ihleft, ihright]
      exact or_or_or_comm
  | mappedComparison _ =>
      simp only [Node.references, Node.visited, Node.skipped, List.mem_append]
  | comparison hfirst =>
      rw [(visited_comparison hfirst).1, (visited_comparison hfirst).2]
      simp [Node.references]
  | property _ => simp [Node.references, Node.visited, Node.skipped]
  | hasProperty _ =>
      simp [Node.references, Node.visited, Node.skipped, Node.isHasOperand, Node.isProperty]
  | unary hop hoperand ih =>
      have hhas := fun h => hoperand.isHasOperand.trans (hop h)
      rw [references_unary hhas, (visited_unary hop).1, (visited_unary hop).2]
      exact ih
  | constant => simp [Node.references, Node.visited, Node.skipped]

/-- What is looked up is known. -/
theorem Visits.known (h : Visits rt metadata x m) {property : PropertyAccessNode}
    (hproperty : property ∈ x.visited) :
    exists path dataType info, property = .simple path dataType ∧ metadata.IsField path info := by
  induction h with
  | parenthesis _ ih => exact ih hproperty
  | logical _ _ ihleft ihright =>
      rcases List.mem_append.mp hproperty with hleft | hright
      · exact ihleft hleft
      · exact ihright hright
  | mappedComparison hmapped =>
      rcases mapProperty_eq_ok hmapped with ⟨path, dataType, hpath, hinfo, _⟩
      exact ⟨path, dataType, _, (List.mem_singleton.mp hproperty).trans hpath, hinfo⟩
  | comparison hfirst =>
      rw [(visited_comparison hfirst).1] at hproperty
      cases hproperty
  | property hmapped =>
      rcases mapProperty_eq_ok hmapped with ⟨path, dataType, hpath, hinfo, _⟩
      exact ⟨path, dataType, _, (List.mem_singleton.mp hproperty).trans hpath, hinfo⟩
  | hasProperty _ => cases hproperty
  | unary hop _ ih =>
      rw [(visited_unary hop).1] at hproperty
      exact ih hproperty
  | constant => cases hproperty

theorem listedName_of_isField {path : List String} {dataType : Option DataType}
    {info : PropertyMetadataInfo} (h : metadata.IsField path info) :
    Provider.listedName metadata (.simple path dataType) = info.fieldName := by
  have hlookup : metadata.getPropertyMetadata path = .ok (some info) := h
  simp only [Provider.listedName]
  rw [hlookup]

theorem listedName_of_mapProperty {property : PropertyAccessNode}
    {mapped : Node × PropertyMetadataInfo} {throwMappingError : Bool}
    (h : mapProperty metadata throwMappingError property = .ok mapped) :
    Provider.listedName metadata property = mapped.2.fieldName := by
  cases property with
  | json column path dataType => cases h
  | simple path dataType =>
      rcases bind_eq_ok.mp h with ⟨info, hinfo, h⟩
      simp only [Provider.listedName]
      rw [hinfo]
      cases info with
      | some info =>
          rcases bind_eq_ok.mp h with ⟨fields, hfields, h⟩
          cases h
          rfl
      | none =>
          cases throwMappingError with
          | true => cases h
          | false =>
              cases h
              rfl

/-- The fields of a visit have the names of what is looked up. -/
theorem Visits.names (h : Visits rt metadata x m) (name : String) :
    name ∈ m.2.map PropertyMetadataInfo.fieldName <->
      exists property, property ∈ x.visited ++ x.hasOperands ∧
        Provider.listedName metadata property = name := by
  induction h with
  | parenthesis _ ih => exact ih
  | logical _ _ ihleft ihright =>
      rw [List.map_append, List.mem_append, ihleft, ihright]
      simp only [Node.visited, Node.hasOperands, List.mem_append]
      constructor
      · rintro (⟨property, hmem, hname⟩ | ⟨property, hmem, hname⟩)
        · exact ⟨property, hmem.imp Or.inl Or.inl, hname⟩
        · exact ⟨property, hmem.imp Or.inr Or.inr, hname⟩
      · rintro ⟨property, (hleft | hright) | (hleft | hright), hname⟩
        · exact Or.inl ⟨property, Or.inl hleft, hname⟩
        · exact Or.inr ⟨property, Or.inl hright, hname⟩
        · exact Or.inl ⟨property, Or.inr hleft, hname⟩
        · exact Or.inr ⟨property, Or.inr hright, hname⟩
  | mappedComparison hmapped =>
      simp [Node.visited, Node.hasOperands, listedName_of_mapProperty hmapped, eq_comm]
  | comparison hfirst =>
      rw [(visited_comparison hfirst).1]
      simp [Node.hasOperands]
  | property hmapped =>
      simp [Node.visited, Node.hasOperands, listedName_of_mapProperty hmapped, eq_comm]
  | hasProperty hmapped =>
      simp [Node.visited, Node.hasOperands, Node.isProperty, listedName_of_mapProperty hmapped,
        eq_comm]
  | @unary op operand m hop _ ih =>
      have hagain : name ∈ (visitedAgain m).map PropertyMetadataInfo.fieldName <->
          name ∈ m.2.map PropertyMetadataInfo.fieldName := by
        unfold visitedAgain
        rw [List.map_append, List.mem_append]
        split <;> simp
      have hhas : (Node.unary op operand).hasOperands = operand.hasOperands := by
        cases op with
        | has =>
            cases operand with
            | propertyAccess property => cases hop rfl
            | _ => rfl
        | _ => rfl
      rw [hagain, ih, (visited_unary hop).1, hhas]
  | constant => simp [Node.visited, Node.hasOperands]

theorem Visits.references_joinUnary (h : Visits rt metadata x m) (op : UnaryNodeOperator) :
    optionReferences (some (joinUnary op m.1)) = optionReferences m.1 := by
  have hmapped := h.mapped_isHasOperand
  cases hm : m.1 with
  | none => cases op <;> rfl
  | some y => exact references_unary fun _ => hmapped y hm

/-- A column comes from a field that is looked up or stands in an operand left alone. -/
theorem Visits.columns (h : Visits rt metadata x m) {column : PropertyAccessNode}
    (hcolumn : column ∈ optionReferences m.1) :
    column ∈ x.skipped ∨ exists path dataType info, .simple path dataType ∈ x.visited ∧
      metadata.IsField path info ∧ column ∈ info.columns := by
  induction h with
  | parenthesis _ ih => exact ih hcolumn
  | logical _ _ ihleft ihright =>
      rw [Node.skipped, Node.visited]
      rcases mem_references_joinLogical.mp hcolumn with hleft | hright
      · rcases ihleft hleft with hskipped | ⟨path, dataType, info, hmem, hfield⟩
        · exact Or.inl (List.mem_append_left _ hskipped)
        · exact Or.inr ⟨path, dataType, info, List.mem_append_left _ hmem, hfield⟩
      · rcases ihright hright with hskipped | ⟨path, dataType, info, hmem, hfield⟩
        · exact Or.inl (List.mem_append_right _ hskipped)
        · exact Or.inr ⟨path, dataType, info, List.mem_append_right _ hmem, hfield⟩
  | @mappedComparison property op second mapped hmapped =>
      rcases mapProperty_eq_ok hmapped with ⟨path, dataType, hpath, hinfo, hfields⟩
      have hmodified := modified_modifyComparisonNode rt mapped.1 op second mapped.2
      rcases (references_modified hmodified).1 column hcolumn with hfirst | hsecond
      · rw [(references_mappedFields hfields).1] at hfirst
        exact Or.inr ⟨path, dataType, _, List.mem_singleton.mpr hpath.symm, hinfo, hfirst⟩
      · exact Or.inl hsecond
  | @comparison first second op hfirst =>
      rw [(visited_comparison hfirst).2]
      exact Or.inl hcolumn
  | property hmapped =>
      rcases mapProperty_eq_ok hmapped with ⟨path, dataType, hpath, hinfo, hfields⟩
      have hfirst := references_truthiness _ _ column hcolumn
      rw [(references_mappedFields hfields).1] at hfirst
      exact Or.inr ⟨path, dataType, _, List.mem_singleton.mpr hpath.symm, hinfo, hfirst⟩
  | @hasProperty property mapped hmapped =>
      have hhas : mapped.1.isHasOperand = true := by
        cases property with
        | json _ _ _ => cases hmapped
        | simple path dataType =>
            rcases bind_eq_ok.mp hmapped with ⟨info, _, h⟩
            cases info with
            | some info =>
                rcases bind_eq_ok.mp h with ⟨fields, hfields, h⟩
                cases h
                exact (references_mappedFields hfields).2
            | none =>
                cases h
                rfl
      simp only [optionReferences, Node.references, hhas, if_true] at hcolumn
      cases hcolumn
  | @unary op operand m hop hoperand ih =>
      rw [(visited_unary hop).1, (visited_unary hop).2]
      exact ih (hoperand.references_joinUnary op ▸ hcolumn)
  | constant => cases hcolumn

/-- What is left alone is a column of the mapped tree. -/
theorem Visits.skipped (h : Visits rt metadata x m) {property : PropertyAccessNode}
    (hproperty : property ∈ x.skipped) : property ∈ optionReferences m.1 := by
  induction h with
  | parenthesis _ ih => exact ih hproperty
  | logical _ _ ihleft ihright =>
      rw [mem_references_joinLogical]
      rw [Node.skipped] at hproperty
      exact (List.mem_append.mp hproperty).imp ihleft ihright
  | @mappedComparison _ op second mapped _ =>
      exact (references_modified (modified_modifyComparisonNode rt mapped.1 op second mapped.2)).2
        property hproperty
  | comparison hfirst =>
      rw [(visited_comparison hfirst).2] at hproperty
      exact hproperty
  | property _ => cases hproperty
  | hasProperty _ => cases hproperty
  | @unary op operand m hop hoperand ih =>
      rw [(visited_unary hop).2] at hproperty
      exact (hoperand.references_joinUnary op).symm ▸ ih hproperty
  | constant => cases hproperty

end Visited

/-!
## Accepted filters
-/

section Accepted

variable {p : Provider} {celpy : Celpy} {cel : String} {tree : Tree .expr} {originalQuery : Node}
  {result : CelToSqlResult}

theorem meetsEveryRow_iff {property : PropertyAccessNode} {op : ComparisonNodeOperator}
    {second : Node} {mapped : Node × PropertyMetadataInfo}
    (h : mapProperty p.metadata true property = .ok mapped) :
    Provider.meetsEveryRow p.rt p.metadata property op second = true <->
      modifyComparisonNode p.rt mapped.1 op second mapped.2 = none := by
  rcases mapProperty_eq_ok h with ⟨path, dataType, hpath, hinfo, _⟩
  rw [modifyComparisonNode_eq_none, hpath]
  constructor
  · intro hmeets
    unfold Provider.meetsEveryRow at hmeets
    split at hmeets
    · rename_i original heq
      cases heq
      rw [hinfo] at hmeets
      simp only at hmeets
      split at hmeets
      · rename_i index hindex
        exact ⟨rfl, original, index, rfl, hindex, of_decide_eq_true hmeets⟩
      · cases hmeets
    · cases hmeets
  · rintro ⟨hop, original, index, hsecond, hindex, hlength⟩
    subst hop hsecond
    simp only [Provider.meetsEveryRow]
    rw [hinfo]
    simp only
    rw [hindex]
    exact decide_eq_true hlength

theorem Visits.vacuous_iff {x : Node} {m : Mapped} (h : Visits p.rt p.metadata x m) :
    m.1 = none <-> p.vacuous x = true := by
  induction h with
  | parenthesis _ ih => exact ih
  | @logical _ _ _ l r _ _ ihleft ihright =>
      rw [Provider.vacuous, Bool.and_eq_true, ← ihleft, ← ihright]
      rcases l with ⟨left, _⟩
      rcases r with ⟨right, _⟩
      cases left <;> cases right <;> simp [joinLogical]
  | mappedComparison hmapped => exact (meetsEveryRow_iff hmapped).symm
  | @comparison first second op hfirst =>
      cases first with
      | propertyAccess _ => cases hfirst
      | _ => simp [Provider.vacuous]
  | property _ => simp [Provider.vacuous]
  | hasProperty _ => simp [Provider.vacuous]
  | unary _ _ _ => simp [Provider.vacuous]
  | constant => simp [Provider.vacuous]

/-- An accepted filter was visited, and its fields are those of the visit. -/
theorem convertQuery_eq_ok (h : p.convertQuery cel originalQuery = .ok result) :
    exists m : Mapped, Visits p.rt p.metadata originalQuery m ∧
      p.columnsOf originalQuery = optionReferences m.1 ∧
      forall name, Listed result.involvedFields name <->
        m.1 ≠ none ∧ name ∈ m.2.map PropertyMetadataInfo.fieldName := by
  unfold Provider.convertQuery at h
  split at h
  · rcases bind_eq_ok.mp h with ⟨⟨mapped, fields⟩, hmapped, h⟩
    have hquery : mapPropsInAst p.rt p.metadata originalQuery = .ok (mapped, fields) := by
      unfold Provider.mapQuery at hmapped
      split at hmapped
      · cases hmapped
        assumption
      · cases hmapped
      · cases hmapped
    rcases visits_of_mapPropsInAst hquery with ⟨visited, hvisits, hfields⟩
    refine ⟨(mapped, visited), hvisits, ?_, ?_⟩
    · unfold Provider.columnsOf
      rw [hmapped]
      cases mapped <;> rfl
    · intro name
      cases mapped with
      | none =>
          cases h
          simp [Listed]
      | some mapped =>
          rcases bind_eq_ok.mp h with ⟨sql, _, h⟩
          cases h
          unfold Listed
          simp only at hfields
          rw [hfields, mem_names_distinctFields]
          simp
  · cases h

/-- The fields of an accepted filter went through the mapping exactly where something is left
to filter and the operands that the mapper leaves alone hold no reference, other than one
spelled like the column of a listed field. -/
theorem everyFieldMapped_iff (hcel : cel ≠ "") (hparse : celpy.parse cel = .ok tree)
    (hast : convertToAst p.rt tree = .ok originalQuery)
    (h : p.convertToSqlStr celpy cel = .ok result) :
    p.EveryFieldMapped originalQuery result.involvedFields <->
      (originalQuery.references = [] ∨ p.vacuous originalQuery = false) ∧
        forall property, property ∈ originalQuery.skipped ->
          p.ReadsAsColumn originalQuery property := by
  have hquery : p.convertQuery cel originalQuery = .ok result := by
    unfold Provider.convertToSqlStr at h
    rw [if_neg hcel, hparse] at h
    simp only [hast] at h
    exact h
  rcases convertQuery_eq_ok hquery with ⟨m, hvisits, hcolumns, hlisted⟩
  have hnamed : forall name, m.1 ≠ none -> (Listed result.involvedFields name <->
      p.Named originalQuery name) := by
    intro name hm
    rw [hlisted, hvisits.names]
    exact ⟨fun h => h.2, fun h => ⟨hm, h⟩⟩
  constructor
  · intro hmapped
    constructor
    · rcases hreferences : originalQuery.references with _ | ⟨property, rest⟩
      · exact Or.inl rfl
      · right
        rcases hmapped.references property (hreferences ▸ List.mem_cons_self) with
          ⟨_, _, info, _, _, hinfo⟩
        have hm := ((hlisted info.fieldName).mp hinfo).1
        exact Bool.eq_false_iff.mpr fun hvacuous => hm (hvisits.vacuous_iff.mpr hvacuous)
    · intro property hproperty
      have hcolumn := hvisits.skipped hproperty
      have hm : m.1 ≠ none := by
        intro hnone
        rw [hnone] at hcolumn
        cases hcolumn
      constructor
      · have hreference := (hvisits.mem_references property).mpr (Or.inr hproperty)
        rcases hmapped.references property hreference with
          ⟨path, dataType, info, hpath, hfield, hinfo⟩
        exact ⟨path, dataType, info, hpath, hfield, (hnamed _ hm).mp hinfo⟩
      · rcases hmapped.columns property (hcolumns ▸ hcolumn) with ⟨path, info, hfield, hinfo, hmem⟩
        exact ⟨path, info, hfield, (hnamed _ hm).mp hinfo, hmem⟩
  · rintro ⟨hleft, hskipped⟩
    have hvisited : forall path dataType info, .simple path dataType ∈ originalQuery.visited ->
        p.metadata.IsField path info -> p.Named originalQuery info.fieldName := by
      intro path dataType info hmem hfield
      exact ⟨_, List.mem_append_left _ hmem, listedName_of_isField hfield⟩
    have hm : forall property, property ∈ originalQuery.references -> m.1 ≠ none := by
      intro property hmem hnone
      rcases hleft with hnil | hvacuous
      · rw [hnil] at hmem
        cases hmem
      · rw [hvisits.vacuous_iff.mp hnone] at hvacuous
        cases hvacuous
    constructor
    · intro property hmem
      have hsome := hm property hmem
      rcases (hvisits.mem_references property).mp hmem with hvisit | hskip
      · rcases hvisits.known hvisit with ⟨path, dataType, info, hpath, hfield⟩
        have hname := hvisited path dataType info (hpath ▸ hvisit) hfield
        exact ⟨path, dataType, info, hpath, hfield, (hnamed _ hsome).mpr hname⟩
      · rcases (hskipped property hskip).known with ⟨path, dataType, info, hpath, hfield, hname⟩
        exact ⟨path, dataType, info, hpath, hfield, (hnamed _ hsome).mpr hname⟩
    · intro column hcolumn
      rw [hcolumns] at hcolumn
      have hsome : m.1 ≠ none := by
        intro hnone
        rw [hnone] at hcolumn
        cases hcolumn
      rcases hvisits.columns hcolumn with hskip | ⟨path, dataType, info, hmem, hfield, hcol⟩
      · rcases (hskipped column hskip).column with ⟨path, info, hfield, hname, hcol⟩
        exact ⟨path, info, hfield, (hnamed _ hsome).mpr hname, hcol⟩
      · have hname := hvisited path dataType info hmem hfield
        exact ⟨path, info, hfield, (hnamed _ hsome).mpr hname, hcol⟩

end Accepted

namespace MappedFieldsSample

def metadata : PropertiesMetadata :=
  .ofConfigurations [⟨"severity", ["alert.severity"], some .string, []⟩]

def provider : Provider := ⟨asciiRuntime, .postgresql, id, metadata⟩

def identifier (name : String) : Tree .addition :=
  .additionOne (.multiplicationOne (.unaryOne (.memberPrimary (.ident name))))

/-- `severity == secret` -/
def tree : Tree .expr :=
  .ofRelation (.relation .eq (.relationOne (identifier "severity")) (identifier "secret"))

def celpy : Celpy where
  parse := fun _ => .ok tree
  str := fun _ => ""

def query : Node :=
  .comparison (simpleNode ["severity"]) .eq (simpleNode ["secret"])

def severityInfo : PropertyMetadataInfo :=
  ⟨"severity", [.simple "alert.severity"], [], some .string⟩

def result : CelToSqlResult := ⟨"alert.severity = secret", [severityInfo]⟩

theorem convertToAst_tree : convertToAst asciiRuntime tree = .ok query := rfl

theorem convert_tree : provider.convertToSqlStr celpy "severity == secret" = .ok result := by
  decide

end MappedFieldsSample

open MappedFieldsSample in
theorem everyFieldMapped_iff_secret :
    provider.EveryFieldMapped query result.involvedFields <->
      (query.references = [] ∨ provider.vacuous query = false) ∧
        forall property, property ∈ query.skipped -> provider.ReadsAsColumn query property :=
  everyFieldMapped_iff (by decide) rfl convertToAst_tree convert_tree

open MappedFieldsSample in
/-- The second operand of a comparison stands in the condition as it is written. -/
theorem unmapped_second_operand :
    ¬ forall (p : Provider) (celpy : Celpy) (cel : String) (tree : Tree .expr)
        (originalQuery : Node) (result : CelToSqlResult),
      celpy.parse cel = .ok tree -> convertToAst p.rt tree = .ok originalQuery ->
        p.convertToSqlStr celpy cel = .ok result ->
          p.EveryFieldMapped originalQuery result.involvedFields := by
  intro h
  have hmapped := h provider celpy "severity == secret" tree query result rfl convertToAst_tree
    convert_tree
  have hmem : .simple ["secret"] none ∈ query.references := by decide
  rcases hmapped.references _ hmem with ⟨path, dataType, info, hpath, hfield, _⟩
  cases hpath
  have hnone : provider.metadata.getPropertyMetadata ["secret"] = .ok none := by decide
  unfold PropertiesMetadata.IsField at hfield
  rw [hnone] at hfield
  cases hfield

end Cel
end KeepGateway
