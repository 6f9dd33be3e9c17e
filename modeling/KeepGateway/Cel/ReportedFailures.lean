import KeepGateway.Cel.AlertFields
import KeepGateway.Cel.MappedFields
import KeepGateway.Cel.ParsedNodes
import KeepGateway.Lib.Except

/-!
# Reported failures

Which expressions end the conversion with an exception other than `CelToSqlException`.
The mapper's handler takes unknown fields only, and the handler around the rendering takes
unsupported nodes only; an expression is reported where the first fault, in the order in
which its parts are evaluated, is one of them.
-/

namespace KeepGateway
namespace Cel

/-!
## First faults

The first fault of an expression, by its parts in the order of their evaluation.
-/

/-- Whether a path is one of the configured fields. -/
def PropertiesMetadata.isKnown (metadata : PropertiesMetadata) (path : List String) : Bool :=
  (metadata.knownConfigurations.lookup (getPropertyPathStr path)).isSome

/-- The conversion of a text that is parsed is that of its AST. -/
theorem Provider.convertToSqlStr_of_parse {p : Provider} {celpy : Celpy} {cel : String}
    {tree : Tree .expr} {originalQuery : Node} (hcel : cel ≠ "")
    (hparse : celpy.parse cel = .ok tree)
    (hast : convertToAst p.rt tree = .ok originalQuery) :
    p.convertToSqlStr celpy cel = p.convertQuery cel originalQuery := by
  unfold Provider.convertToSqlStr
  rw [if_neg hcel, hparse]
  simp only [hast]

/-- A field that is unknown is reported. -/
def lookupFault (metadata : PropertiesMetadata) : PropertyAccessNode -> Option Fault
  | .simple path _ => if metadata.isKnown path then none else some .handled
  | .json _ _ _ => some .escapes

/-- The first fault of the mapper: an unknown field, or a part of a `has()` that it does not
support. -/
def mapFault (metadata : PropertiesMetadata) : Node -> Option Fault
  | .parenthesis expression => mapFault metadata expression
  | .logical left _ right => (mapFault metadata left).or (mapFault metadata right)
  | .comparison (.propertyAccess property) _ _ => lookupFault metadata property
  | .comparison _ _ _ => none
  | .propertyAccess property => lookupFault metadata property
  | .unary .has (.propertyAccess _) => none
  | .unary _ operand => mapFault metadata operand
  | .constant _ => none
  | _ => some .escapes

/-- The items of a list are tested up to the first of another type. -/
def itemsFault (other : Value) : List Node -> Option Fault
  | [] => none
  | .constant value :: rest =>
      if Provider.isInstance value other then itemsFault other rest else none
  | _ :: _ => some .escapes

/-- A list that is empty, or that holds something other than a constant where its types are
tested. -/
def listFault : List Node -> Option Fault
  | [] => some .escapes
  | .constant value :: rest => itemsFault value (.constant value :: rest)
  | _ :: _ => some .escapes

/-- Whether the data type of an operand can be told. -/
def hasDataType : Node -> Bool
  | .propertyAccess _ => true
  | .multipleFields _ _ => true
  | .comparison first _ _ => hasDataType first
  | _ => false

def dataTypeFault (first second : Node) : Option Fault :=
  if Provider.constantsWithoutNone (Provider.asArray second) = [] then none
  else if hasDataType first then none
  else some .handled

/-- A column is not rendered as a filter. -/
def inOperandFault (first : Node) (fault : Option Fault) : Option Fault :=
  if first.isHasOperand then none else fault

def Node.isConstant : Node -> Bool
  | .constant _ => true
  | _ => false

/-- The first fault of a comparison, by those of its operands. -/
def comparisonFault (first : Node) (op : ComparisonNodeOperator) (second : Node)
    (firstFault secondFault : Option Fault) : Option Fault :=
  match op with
  | .isIn =>
      (listFault (Provider.asArray second)).or
        ((inOperandFault first firstFault).or (dataTypeFault first second))
  | .contains | .startsWith | .endsWith =>
      firstFault.or (secondFault.or (if second.isConstant then none else some .escapes))
  | _ => firstFault.or (if second.isConstant then none else secondFault)

/-- The first fault of an operand that is rendered as it was parsed. -/
def operandFault : Node -> Option Fault
  | .parenthesis expression => operandFault expression
  | .logical left _ right => (operandFault left).or (operandFault right)
  | .comparison first op second =>
      comparisonFault first op second (operandFault first) (operandFault second)
  | .unary .not operand => operandFault operand
  | .unary .has _ => none
  | .propertyAccess (.simple path _) =>
      if ".".intercalate path = "" then some .handled else none
  | .constant _ => none
  | _ => some .handled

/-- The first fault of a filter whose fields are mapped. -/
def filterFault : Node -> Option Fault
  | .parenthesis expression => filterFault expression
  | .logical left _ right => (filterFault left).or (filterFault right)
  | .comparison (.propertyAccess property) op second =>
      comparisonFault (.propertyAccess property) op second none (operandFault second)
  | .comparison first op second =>
      comparisonFault first op second (operandFault first) (operandFault second)
  | .unary .not operand => filterFault operand
  | .unary .neg _ => some .handled
  | _ => none

/-- The first fault of a query. -/
def queryFault (metadata : PropertiesMetadata) (originalQuery : Node) : Option Fault :=
  (mapFault metadata originalQuery).or (filterFault originalQuery)

/-!
## Faults of the mapper
-/

/-- The exceptions that are translated while properties are mapped. -/
def mapperHandles : PyException -> Bool
  | .propertiesMappingException _ => true
  | _ => false

/-- The exceptions that are translated while the condition is built. -/
def builderHandles : PyException -> Bool
  | .notImplementedError _ => true
  | _ => false

section Mapper

variable {rt : Runtime} {metadata : PropertiesMetadata}

/-- The columns of a known plain field: one that is no array, or several. -/
def Node.isPlainField : Node -> Bool
  | .propertyAccess (.simple [column] dataType) => column != "" && dataType != some .array
  | .multipleFields fields _ => fields.length > 1 && fields.all fun field => !field.isJson
  | _ => false

theorem createPropertyAccessNode_simple (dataType : Option DataType) (columns : List String) :
    (columns.map .simple).map (createPropertyAccessNode dataType) =
      columns.map fun column => .simple [column] dataType := by
  rw [List.map_map]
  rfl

theorem mappedFields_plain {config : FieldMappingConfiguration} (h : config.IsPlain)
    (fieldName : String) :
    exists fields, mappedFields
        ⟨fieldName, config.mapTo.map .simple, config.enumValues, config.dataType⟩ = .ok fields ∧
      fields.isPlainField = true := by
  unfold mappedFields
  simp only [createPropertyAccessNode_simple]
  rcases hmapTo : config.mapTo with _ | ⟨column, _ | ⟨next, rest⟩⟩
  · exact (h.mapTo hmapTo).elim
  · refine ⟨_, rfl, ?_⟩
    have hcolumn := (h.columns column (by rw [hmapTo]; exact List.mem_cons_self)).2
    simp [Node.isPlainField, hcolumn, h.dataType]
  · refine ⟨_, rfl, ?_⟩
    simp [Node.isPlainField, PropertyAccessNode.isJson]

/-- A known field is mapped to its columns. -/
theorem mapProperty_known (h : metadata.IsPlain) {path : List String}
    (hknown : metadata.isKnown path = true) (dataType : Option DataType)
    (throwMappingError : Bool) :
    exists fields info,
      mapProperty metadata throwMappingError (.simple path dataType) = .ok (fields, info) ∧
        fields.isPlainField = true := by
  rcases Option.isSome_iff_exists.mp hknown with ⟨config, hlookup⟩
  rcases mappedFields_plain (h.known _ (mem_of_lookup hlookup)).2 (getPropertyPathStr path)
    with ⟨fields, hfields, hplain⟩
  refine ⟨fields, ⟨getPropertyPathStr path, config.mapTo.map .simple, config.enumValues,
    config.dataType⟩, ?_, hplain⟩
  simp only [mapProperty]
  rw [h.getPropertyMetadata, hlookup]
  simp only [Option.map_some, bind, Except.bind]
  rw [hfields]

theorem mapProperty_unknown (h : metadata.IsPlain) {path : List String}
    (hknown : metadata.isKnown path = false) (dataType : Option DataType)
    (throwMappingError : Bool) :
    mapProperty metadata throwMappingError (.simple path dataType) =
      if throwMappingError then .error (missingMapping (".".intercalate path))
      else .ok (.propertyAccess (.simple path dataType),
        unmappedInfo (".".intercalate path)) := by
  have hlookup := Option.not_isSome_iff_eq_none.mp (Bool.eq_false_iff.mp hknown)
  simp only [mapProperty]
  rw [h.getPropertyMetadata, hlookup]
  rfl

theorem fault_mapProperty (h : metadata.IsPlain) (property : PropertyAccessNode) :
    Fault.of mapperHandles (mapProperty metadata true property) =
      lookupFault metadata property := by
  cases property with
  | json _ _ _ => rfl
  | simple path dataType =>
      simp only [lookupFault]
      cases hknown : metadata.isKnown path with
      | true =>
          rcases mapProperty_known h hknown dataType true with ⟨fields, info, heq, _⟩
          rw [heq]
          rfl
      | false =>
          rw [mapProperty_unknown h hknown]
          rfl

theorem mapProperty_has (h : metadata.IsPlain) {property : PropertyAccessNode}
    (hproperty : (Node.propertyAccess property).isParsed = true) :
    exists mapped, mapProperty metadata false property = .ok mapped ∧
      (mapped.1.isPlainField = true ∨ mapped.1 = .propertyAccess property) := by
  cases property with
  | json _ _ _ =>
      rw [Node.isParsed] at hproperty
      · cases hproperty
      · intro path heq
        cases heq
  | simple path dataType =>
      cases hknown : metadata.isKnown path with
      | true =>
          rcases mapProperty_known h hknown dataType false with ⟨fields, info, heq, hfields⟩
          exact ⟨_, heq, Or.inl hfields⟩
      | false => exact ⟨_, mapProperty_unknown h hknown dataType false, Or.inr rfl⟩

theorem fault_visitNodes (h : metadata.IsPlain) (x : Node) (hparsed : x.isParsed = true) :
    Fault.of mapperHandles (visitNodes rt metadata x) = mapFault metadata x := by
  induction x using visitNodes.induct with
  | case1 expression ih =>
      rw [visitNodes, mapFault]
      exact ih (by rwa [Node.isParsed] at hparsed)
  | case2 left op right ihleft ihright =>
      rw [Node.isParsed] at hparsed
      rcases Bool.and_eq_true_iff.mp hparsed with ⟨hleft, hright⟩
      rw [visitNodes, mapFault, ← ihleft hleft]
      apply Fault.of_bind
      intro l _
      rw [Fault.of_bind_ok]
      exact ihright hright
  | case3 property op second =>
      rw [visitNodes, mapFault, Fault.of_bind_ok]
      exact fault_mapProperty h property
  | case4 first op second hfirst =>
      rw [visitNodes, mapFault]
      · rfl
      · exact hfirst
      · exact hfirst
  | case5 property =>
      rw [visitNodes, mapFault, Fault.of_bind_ok]
      exact fault_mapProperty h property
  | case6 property =>
      rw [visitNodes, mapFault, Fault.of_bind_ok]
      rw [Node.isParsed] at hparsed
      rcases mapProperty_has h hparsed with ⟨mapped, heq, _⟩
      rw [heq]
      rfl
  | case7 op operand hoperand ih =>
      rw [visitNodes, mapFault]
      · rw [Fault.of_bind_ok]
        exact ih (by rwa [Node.isParsed] at hparsed)
      · exact hoperand
      · exact hoperand
  | case8 value => rfl
  | case9 x _ _ _ _ _ _ _ _ =>
      rw [visitNodes, mapFault]
      · rfl
      all_goals assumption

end Mapper

/-!
## Faults of comparisons
-/

section Builder

variable {p : Provider}

/-- An operand that is cast without fail: no JSON column, no array. -/
def Node.isPlainOperand : Node -> Bool
  | .propertyAccess (.simple _ dataType) => dataType != some .array
  | .propertyAccess (.json _ _ _) => false
  | .multipleFields fields _ => fields != [] && fields.all fun field => !field.isJson
  | _ => true

theorem isPlainOperand_of_isPlainField {x : Node} (h : x.isPlainField = true) :
    x.isPlainOperand = true ∧ x.isHasOperand = true := by
  cases x with
  | propertyAccess property =>
      rcases property with ⟨path, dataType⟩ | _
      · rcases path with _ | ⟨column, _ | ⟨next, rest⟩⟩
        · cases h
        · exact ⟨(Bool.and_eq_true_iff.mp h).2, rfl⟩
        · cases h
      · cases h
  | multipleFields fields dataType =>
      rcases Bool.and_eq_true_iff.mp h with ⟨hlength, hfields⟩
      refine ⟨Bool.and_eq_true_iff.mpr ⟨?_, hfields⟩, rfl⟩
      cases fields with
      | nil => cases hlength
      | cons field rest => rfl
  | _ => cases h

theorem isPlainOperand_of_isParsed {x : Node} (h : x.isParsed = true) :
    x.isPlainOperand = true := by
  cases x with
  | propertyAccess property =>
      rcases property with ⟨path, _ | dataType⟩ | _
      · rfl
      · simp [Node.isParsed] at h
      · simp [Node.isParsed] at h
  | multipleFields fields dataType => simp [Node.isParsed] at h
  | _ => rfl

theorem isArray_of_isPlainOperand {x : Node} (h : x.isPlainOperand = true) :
    Provider.isArray x = none := by
  cases x with
  | propertyAccess property =>
      rcases property with ⟨path, dataType⟩ | _
      · have hne : dataType ≠ some .array := by simpa [Node.isPlainOperand] using h
        exact if_neg hne
      · cases h
  | _ => rfl

theorem firstOperandType_plain {x : Node} (h : x.isPlainOperand = true) :
    exists dataType, Provider.firstOperandType x = .ok (dataType, false) := by
  cases x with
  | propertyAccess property =>
      rcases property with ⟨path, dataType⟩ | _
      · exact ⟨dataType, rfl⟩
      · cases h
  | multipleFields fields dataType =>
      rcases Bool.and_eq_true_iff.mp h with ⟨hne, hfields⟩
      cases fields with
      | nil => cases hne
      | cons field rest =>
          have hfield := List.all_eq_true.mp hfields field List.mem_cons_self
          have hjson : field.isJson = false := by simpa using hfield
          refine ⟨dataType, ?_⟩
          show Except.ok (dataType, field.isJson) = _
          rw [hjson]
  | _ => exact ⟨none, rfl⟩

/-- The types of constants can be cast to in every dialect. -/
theorem cast_constant (text : String) (value : Value) :
    exists e, p.cast text (some (fromTypeToDataType value)) = .ok e := by
  rcases hp : p with ⟨rt, dialect, escape, metadata⟩
  cases value <;> cases dialect <;> exact ⟨_, rfl⟩

theorem cast_string (text : String) : exists e, p.cast text (some .string) = .ok e :=
  cast_constant text (.str "")

theorem fault_castOperands {first : Node} (hfirst : first.isPlainOperand = true)
    (second : Node) (builtFirst builtSecond : Except PyException String) :
    Fault.of builderHandles (p.castOperands first second builtFirst builtSecond) =
      (Fault.of builderHandles builtFirst).or
        (if second.isConstant then none else Fault.of builderHandles builtSecond) := by
  rcases firstOperandType_plain hfirst with ⟨dataType, htype⟩
  unfold Provider.castOperands
  rw [htype]
  change Fault.of builderHandles (builtFirst >>= _) = _
  apply Fault.of_bind
  intro firstText _
  cases second with
  | constant value =>
      simp only [Bool.false_or]
      split
      · rcases cast_constant (p := p) firstText value with ⟨e, he⟩
        rw [he]
        rfl
      · rfl
  | _ => exact Fault.of_bind_ok

theorem fault_allInstances (other : Value) (items : List Node) :
    Fault.of builderHandles (Provider.allInstances other items) = itemsFault other items := by
  induction items with
  | nil => rfl
  | cons item rest ih =>
      cases item with
      | constant value =>
          show Fault.of builderHandles (if Provider.isInstance value other = true then
            Provider.allInstances other rest else .ok false) = _
          rw [itemsFault]
          split
          · exact ih
          · rfl
      | _ => rfl

theorem fault_castTo (array : List Node) :
    Fault.of builderHandles (Provider.castTo array) = listFault array ∧
      forall target, Provider.castTo array = .ok target ->
        target = none ∨ target = some .string := by
  cases array with
  | nil => exact ⟨rfl, fun target h => by cases h⟩
  | cons item rest =>
      cases item with
      | constant value =>
          constructor
          · show Fault.of builderHandles
              (Provider.allInstances value (.constant value :: rest) >>= fun same =>
                .ok (if same then none else some DataType.string)) = _
            rw [Fault.of_bind_ok]
            exact fault_allInstances value _
          · intro target h
            rcases bind_eq_ok.mp h with ⟨_, _, h⟩
            rcases bind_eq_ok.mp h with ⟨same, _, h⟩
            cases h
            cases same with
            | true => exact Or.inl rfl
            | false => exact Or.inr rfl
      | _ => exact ⟨rfl, fun target h => by cases h⟩

theorem fault_getDataTypeToConvert (x : Node) :
    Fault.of builderHandles (Provider.getDataTypeToConvert x) =
      if hasDataType x then none else some .handled := by
  induction x using Provider.getDataTypeToConvert.induct with
  | case1 property => rfl
  | case2 fields dataType => rfl
  | case3 first op second ih =>
      rw [Provider.getDataTypeToConvert, hasDataType]
      exact ih
  | case4 x h1 h2 h3 =>
      rw [Provider.getDataTypeToConvert, hasDataType]
      · rfl
      all_goals assumption

theorem fault_inQueries (text : String) (first second : Node) :
    Fault.of builderHandles (p.inQueries text first (Provider.asArray second)) =
      dataTypeFault first second := by
  unfold Provider.inQueries dataTypeFault
  simp only
  split
  · rfl
  · exact Fault.of_bind_ok.trans (fault_getDataTypeToConvert first)

theorem fault_inOperand {first : Node} (hfirst : first.isPlainOperand = true)
    {target : Option DataType} (htarget : target = none ∨ target = some .string)
    (built : Except PyException String) :
    Fault.of builderHandles (p.inOperand built target first) =
      inOperandFault first (Fault.of builderHandles built) := by
  cases first with
  | propertyAccess property =>
      rcases property with ⟨path, dataType⟩ | _
      · rcases htarget with hnone | hstring
        · rw [hnone]
          rfl
        · rw [hstring]
          rcases cast_string (p := p) (p.visitPropertyAccessNode (.simple path dataType)) with
            ⟨e, he⟩
          show Fault.of builderHandles (p.cast _ (some .string)) = _
          rw [he]
          rfl
      · cases hfirst
  | multipleFields fields dataType =>
      have hfields := (Bool.and_eq_true_iff.mp hfirst).2
      have hany : fields.any PropertyAccessNode.isJson = false := by
        rw [List.any_eq_false]
        intro field hfield
        have hplain := List.all_eq_true.mp hfields field hfield
        simpa using hplain
      simp only [Provider.inOperand, hany, Bool.false_and]
      rfl
  | _ => rfl

theorem fault_visitIn {first : Node} (hfirst : first.isPlainOperand = true) (second : Node)
    (built : Except PyException String) :
    Fault.of builderHandles (p.visitIn first built (Provider.asArray second)) =
      (listFault (Provider.asArray second)).or
        ((inOperandFault first (Fault.of builderHandles built)).or
          (dataTypeFault first second)) := by
  rcases fault_castTo (Provider.asArray second) with ⟨hlist, htargets⟩
  unfold Provider.visitIn
  rw [← hlist]
  apply Fault.of_bind
  intro target htarget
  rw [← fault_inOperand hfirst (htargets target htarget) built]
  apply Fault.of_bind
  intro text _
  rw [Fault.of_bind_ok]
  exact fault_inQueries text first second

theorem fault_visitMethodCalling (op : ComparisonNodeOperator) (text : String) (second : Node) :
    Fault.of builderHandles (p.visitMethodCalling op text second) =
      if second.isConstant then none else some .escapes := by
  cases second <;> rfl

/-- The first fault of a rendered comparison. -/
theorem fault_visitComparisonNode {first : Node} (hfirst : first.isPlainOperand = true)
    (op : ComparisonNodeOperator) (second : Node)
    (builtFirst builtSecond : Except PyException String) :
    Fault.of builderHandles (p.visitComparisonNode first op second builtFirst builtSecond) =
      comparisonFault first op second (Fault.of builderHandles builtFirst)
        (Fault.of builderHandles builtSecond) := by
  have hcast := fault_castOperands (p := p) hfirst second builtFirst builtSecond
  have hmethod : forall op : ComparisonNodeOperator,
      Fault.of builderHandles (builtFirst >>= fun firstText => builtSecond >>= fun _ =>
        p.visitMethodCalling op firstText second) =
          (Fault.of builderHandles builtFirst).or ((Fault.of builderHandles builtSecond).or
            (if second.isConstant then none else some .escapes)) := by
    intro op
    apply Fault.of_bind
    intro firstText _
    apply Fault.of_bind
    intro _ _
    exact fault_visitMethodCalling op firstText second
  cases op with
  | isIn =>
      simp only [Provider.visitComparisonNode, isArray_of_isPlainOperand hfirst]
      exact fault_visitIn hfirst second builtFirst
  | eq =>
      simp only [Provider.visitComparisonNode, isArray_of_isPlainOperand hfirst]
      exact Fault.of_bind_ok.trans hcast
  | contains => exact hmethod .contains
  | startsWith => exact hmethod .startsWith
  | endsWith => exact hmethod .endsWith
  | _ =>
      simp only [Provider.visitComparisonNode]
      exact Fault.of_bind_ok.trans hcast

/-!
## Faults of filters
-/

theorem fault_visitHasProperty (h : p.metadata.IsPlain) {property : PropertyAccessNode}
    (hjson : property.isJson = false) :
    Fault.of builderHandles (p.visitHasProperty property) = none := by
  cases property with
  | simple path dataType =>
      simp only [Provider.visitHasProperty]
      rw [h.getPropertyMetadata]
      rfl
  | json _ _ _ => cases hjson

theorem fault_visitUnaryHas (h : p.metadata.IsPlain) {operand : Node}
    (hoperand : operand.isPlainOperand = true) :
    Fault.of builderHandles (p.visitUnaryHas operand) = none := by
  cases operand with
  | propertyAccess property =>
      cases property with
      | simple path dataType =>
          have hjson : (PropertyAccessNode.simple path dataType).isJson = false := rfl
          exact fault_visitHasProperty h hjson
      | json _ _ _ => cases hoperand
  | multipleFields fields dataType =>
      rcases Bool.and_eq_true_iff.mp hoperand with ⟨hne, hfields⟩
      cases fields with
      | nil => cases hne
      | cons first rest =>
          have hfield : forall field, field ∈ first :: rest ->
              Fault.of builderHandles (p.visitHasProperty field) = none := by
            intro field hfield
            have hjson := List.all_eq_true.mp hfields field hfield
            exact fault_visitHasProperty h (by simpa using hjson)
          rcases Fault.of_eq_none (hfield first List.mem_cons_self) with ⟨filter, hfilter⟩
          show Fault.of builderHandles (p.visitHasProperty first >>= _) = none
          rw [hfilter]
          apply Fault.of_foldlM
          intro filter field hmem
          rw [Fault.of_bind_ok]
          exact hfield field (List.mem_cons_of_mem _ hmem)
  | _ => rfl

theorem fault_nonEmptyText (x : Node) (text : String) :
    Fault.of builderHandles (Provider.nonEmptyText x text) =
      if text = "" then some .handled else none := by
  unfold Provider.nonEmptyText
  split <;> rfl

theorem fault_plainField {fields : Node} (h : fields.isPlainField = true) :
    Fault.of builderHandles (p.buildSqlFilter fields) = none := by
  cases fields with
  | propertyAccess property =>
      rcases property with ⟨path, dataType⟩ | _
      · rcases path with _ | ⟨column, _ | ⟨next, rest⟩⟩
        · cases h
        · have hne : column ≠ "" := by simpa using (Bool.and_eq_true_iff.mp h).1
          rw [Provider.buildSqlFilter, fault_nonEmptyText]
          show (if ".".intercalate [column] = "" then _ else _) = _
          rw [String.intercalate_singleton, if_neg hne]
        · cases h
      · cases h
  | multipleFields fields dataType =>
      have hlength : fields.length > 1 := by simpa using (Bool.and_eq_true_iff.mp h).1
      have hne : p.visitMultipleFieldsNode fields ≠ "" := by
        unfold Provider.visitMultipleFieldsNode Provider.coalesce
        rcases fields with _ | ⟨first, _ | ⟨next, rest⟩⟩
        · cases hlength
        · simp at hlength
        · simp
      rw [Provider.buildSqlFilter, fault_nonEmptyText, if_neg hne]
  | _ => cases h

/-- The first fault of an operand that stands as it was parsed. -/
theorem fault_buildSqlFilter (h : p.metadata.IsPlain) (x : Node) (hparsed : x.isParsed = true) :
    Fault.of builderHandles (p.buildSqlFilter x) = operandFault x := by
  induction x using Provider.buildSqlFilter.induct with
  | case1 expression ih =>
      rw [Node.isParsed] at hparsed
      rw [Provider.buildSqlFilter, operandFault, Fault.of_bind_ok]
      exact ih hparsed
  | case2 left op right ihleft ihright =>
      rw [Node.isParsed] at hparsed
      rcases Bool.and_eq_true_iff.mp hparsed with ⟨hleft, hright⟩
      rw [Provider.buildSqlFilter, operandFault, ← ihleft hleft]
      apply Fault.of_bind
      intro l _
      cases op with
      | and => exact Fault.of_bind_ok.trans (ihright hright)
      | or => exact Fault.of_bind_ok.trans (ihright hright)
  | case3 first op second ihfirst ihsecond =>
      rw [Node.isParsed] at hparsed
      rcases Bool.and_eq_true_iff.mp hparsed with ⟨hfirst, hsecond⟩
      rw [Provider.buildSqlFilter, operandFault, ← ihfirst hfirst, ← ihsecond hsecond]
      exact fault_visitComparisonNode (isPlainOperand_of_isParsed hfirst) op second _ _
  | case4 property =>
      rw [Provider.buildSqlFilter, fault_nonEmptyText]
      rcases property with ⟨path, dataType⟩ | ⟨column, path, dataType⟩
      · rw [operandFault]
        rfl
      · simp [Node.isParsed] at hparsed
  | case5 operand ih =>
      rw [Node.isParsed] at hparsed
      rw [Provider.buildSqlFilter, operandFault, Fault.of_bind_ok]
      exact ih hparsed
  | case6 operand =>
      rw [Node.isParsed] at hparsed
      rw [Provider.buildSqlFilter, operandFault]
      exact fault_visitUnaryHas h (isPlainOperand_of_isParsed hparsed)
  | case7 op operand hnot hhas =>
      cases op with
      | not => exact (hnot rfl).elim
      | has => exact (hhas rfl).elim
      | neg => rfl
  | case8 value => rfl
  | case9 fields dataType => simp [Node.isParsed] at hparsed
  | case10 x _ _ _ _ _ _ _ _ _ =>
      cases x with
      | node => rfl
      | none => rfl
      | list _ => rfl
      | dict _ _ _ => rfl
      | str _ => rfl
      | _ => grind

/-- The condition for a mapped tree; nothing where nothing is left to filter. -/
def Provider.buildMapped (p : Provider) : Option Node -> Except PyException String
  | none => .ok ""
  | some x => p.buildSqlFilter x

theorem fault_comparison {first second : Node} {op : ComparisonNodeOperator}
    (hfirst : first.isPlainField = true)  :
    Fault.of builderHandles (p.buildSqlFilter (.comparison first op second)) =
      comparisonFault first op second none (Fault.of builderHandles (p.buildSqlFilter second)) := by
  rw [Provider.buildSqlFilter]
  have h := fault_visitComparisonNode (p := p) (isPlainOperand_of_isPlainField hfirst).1 op second
    (p.buildSqlFilter first) (p.buildSqlFilter second)
  rw [fault_plainField hfirst] at h
  exact h

/-- A list of texts is compared without fail. -/
theorem fault_inEnum {first : Node} (hfirst : first.isPlainField = true) {values : List String}
    (hvalues : values ≠ []) :
    Fault.of builderHandles (p.buildSqlFilter (inEnum first values)) = none := by
  rw [inEnum, fault_comparison hfirst]
  have hitems : forall (value : String) (rest : List String), itemsFault (.str value)
      (rest.map fun item => .constant (.str item)) = none := by
    intro value rest
    induction rest with
    | nil => rfl
    | cons item rest ih => exact ih
  have hlist : listFault (Provider.asArray (enumConstants values)) = none := by
    cases values with
    | nil => exact (hvalues rfl).elim
    | cons value rest => exact hitems value (value :: rest)
  have htype : dataTypeFault first (enumConstants values) = none := by
    unfold dataTypeFault
    split
    · rfl
    · have hdata : hasDataType first = true := by
        cases first with
        | propertyAccess _ => rfl
        | multipleFields _ _ => rfl
        | _ => cases hfirst
      rw [if_pos hdata]
  have hhas := (isPlainOperand_of_isPlainField hfirst).2
  simp only [comparisonFault, hlist, htype, inOperandFault, hhas]
  rfl

theorem comparisonFault_constant (first : Node) (op : ComparisonNodeOperator) (value : Value)
    (hfirst : first.isHasOperand = true) :
    comparisonFault first op (.constant value) none none = none := by
  have hdata : hasDataType first = true := by
    cases first with
    | propertyAccess _ => rfl
    | multipleFields _ _ => rfl
    | _ => cases hfirst
  have hlist : listFault (Provider.asArray (.constant value)) = none := by
    show (if Provider.isInstance value value then none else none) = none
    split <;> rfl
  have htype : dataTypeFault first (.constant value) = none := by
    unfold dataTypeFault
    rw [hdata]
    split <;> rfl
  cases op with
  | isIn =>
      simp only [comparisonFault, hlist, htype, inOperandFault, hfirst]
      rfl
  | _ => rfl

/-- What becomes of a comparison with a constant fails nowhere. -/
theorem fault_rewritten {first : Node} (hfirst : first.isPlainField = true)
    {op : ComparisonNodeOperator} {value : Value} {x : Option Node}
    (h : Rewritten first op value x) :
    Fault.of builderHandles (p.buildMapped x) = none := by
  cases h with
  | everyRow _ => rfl
  | noRow _ => rfl
  | inEnum hvalues => exact fault_inEnum hfirst hvalues
  | notInEnum hvalues =>
      show Fault.of builderHandles (p.buildSqlFilter (.unary .not _)) = none
      rw [Provider.buildSqlFilter, Fault.of_bind_ok]
      exact fault_inEnum hfirst hvalues
  | kept _ _ _ _ =>
      show Fault.of builderHandles (p.buildSqlFilter _) = none
      rw [fault_comparison hfirst]
      exact comparisonFault_constant first op value (isPlainOperand_of_isPlainField hfirst).2

/-- A canonical value is a text where the value is one, and the value itself elsewhere. -/
theorem canonicalizeEnumValue_shape (rt : Runtime) (enumValues : List String) (value : Value) :
    (exists s t, value = .str s ∧ canonicalizeEnumValue rt enumValues value = .str t) ∨
      canonicalizeEnumValue rt enumValues value = value := by
  cases value with
  | str s =>
      left
      unfold canonicalizeEnumValue
      simp only
      split <;> exact ⟨s, _, rfl, rfl⟩
  | _ => exact Or.inr rfl

theorem isInstance_canonical (rt : Runtime) (enumValues : List String) (value other : Value) :
    Provider.isInstance (canonicalizeEnumValue rt enumValues value)
        (canonicalizeEnumValue rt enumValues other) =
      Provider.isInstance value other := by
  rcases canonicalizeEnumValue_shape rt enumValues value with ⟨s, t, hs, ht⟩ | hvalue
  · rcases canonicalizeEnumValue_shape rt enumValues other with ⟨s', t', hs', ht'⟩ | hother
    · rw [ht, ht', hs, hs']
      rfl
    · rw [ht, hother, hs]
      cases other <;> rfl
  · rcases canonicalizeEnumValue_shape rt enumValues other with ⟨s', t', hs', ht'⟩ | hother
    · rw [hvalue, ht', hs']
      cases value <;> rfl
    · rw [hvalue, hother]

theorem itemsFault_canonical (rt : Runtime) (enumValues : List String) (other : Value)
    (items : List Node) :
    itemsFault (canonicalizeEnumValue rt enumValues other)
        (items.map (canonicalizeEnumItem rt enumValues)) =
      itemsFault other items := by
  induction items with
  | nil => rfl
  | cons item rest ih =>
      cases item with
      | constant value =>
          simp only [List.map_cons, canonicalizeEnumItem, itemsFault, isInstance_canonical, ih]
      | _ => rfl

theorem listFault_canonical (rt : Runtime) (enumValues : List String) (items : List Node) :
    listFault (items.map (canonicalizeEnumItem rt enumValues)) = listFault items := by
  cases items with
  | nil => rfl
  | cons item rest =>
      cases item with
      | constant value => exact itemsFault_canonical rt enumValues value (.constant value :: rest)
      | _ => rfl

theorem constantsWithoutNone_canonical (rt : Runtime) (enumValues : List String)
    (items : List Node) :
    Provider.constantsWithoutNone (items.map (canonicalizeEnumItem rt enumValues)) = [] <->
      Provider.constantsWithoutNone items = [] := by
  unfold Provider.constantsWithoutNone
  rw [List.filterMap_map, List.filterMap_eq_nil_iff, List.filterMap_eq_nil_iff]
  apply forall_congr'
  intro item
  apply imp_congr_right
  intro _
  cases item with
  | constant value =>
      rcases canonicalizeEnumValue_shape rt enumValues value with ⟨s, t, hs, ht⟩ | hvalue
      · subst hs
        simp [canonicalizeEnumItem, ht]
      · simp [canonicalizeEnumItem, hvalue]
  | _ => rfl

theorem isParsed_canonicalOperand (rt : Runtime) (op : ComparisonNodeOperator) {second : Node}
    (info : PropertyMetadataInfo) (h : second.isParsed = true) :
    (canonicalOperand rt op second info).isParsed = true := by
  unfold canonicalOperand
  split
  · cases second with
    | constant value =>
        rw [canonicalizeEnumOperand, Node.isParsed]
        all_goals simp
    | list items =>
        rw [Node.isParsed] at h
        rw [canonicalizeEnumOperand, Node.isParsed]
        apply areParsed_iff.mpr
        intro item hitem
        rcases List.mem_map.mp hitem with ⟨original, horiginal, heq⟩
        have hparsed := areParsed_iff.mp h original horiginal
        rw [← heq]
        cases original with
        | constant value =>
            rw [canonicalizeEnumItem, Node.isParsed]
            all_goals simp
        | _ => exact hparsed
    | _ => exact h
  · exact h

/-- Canonical operands have the faults of the operands themselves. -/
theorem comparisonFault_canonicalOperand (rt : Runtime) (first second : Node)
    (op : ComparisonNodeOperator) (info : PropertyMetadataInfo) (fault : Option Fault) :
    comparisonFault first op (canonicalOperand rt op second info) fault
        (operandFault (canonicalOperand rt op second info)) =
      comparisonFault first op second fault (operandFault second) := by
  unfold canonicalOperand
  split
  · cases second with
    | constant value =>
        rcases canonicalizeEnumValue_shape rt info.enumValues value with ⟨s, t, hs, ht⟩ | hvalue
        · subst hs
          simp only [canonicalizeEnumOperand, ht]
          cases op <;> rfl
        · simp only [canonicalizeEnumOperand, hvalue]
    | list items =>
        have htype : dataTypeFault first
            (.list (items.map (canonicalizeEnumItem rt info.enumValues))) =
              dataTypeFault first (.list items) := by
          exact if_congr (constantsWithoutNone_canonical rt info.enumValues items) rfl rfl
        simp only [canonicalizeEnumOperand]
        cases op with
        | isIn =>
            simp only [comparisonFault, Provider.asArray, listFault_canonical, htype]
        | _ => rfl
    | _ => rfl
  · rfl

end Builder

/-!
## Faults of queries
-/

section Query

variable {p : Provider}

theorem fault_truthiness {fields : Node} (h : fields.isPlainField = true)
    (info : PropertyMetadataInfo) :
    Fault.of builderHandles (p.buildSqlFilter (truthiness fields info)) = none := by
  have hnotEqual : forall value,
      Fault.of builderHandles (p.buildSqlFilter (notEqual fields value)) = none := by
    intro value
    rw [notEqual, fault_comparison h]
    exact comparisonFault_constant fields .ne value (isPlainOperand_of_isPlainField h).2
  have hfold : forall (values : List Value) (filter : Node),
      Fault.of builderHandles (p.buildSqlFilter filter) = none ->
        Fault.of builderHandles (p.buildSqlFilter (values.foldl
          (fun filter falsy => Node.logical filter .and (notEqual fields falsy)) filter)) =
            none := by
    intro values
    induction values with
    | nil =>
        intro filter hfilter
        exact hfilter
    | cons value rest ih =>
        intro filter hfilter
        apply ih
        rw [Provider.buildSqlFilter]
        rcases Fault.of_eq_none hfilter with ⟨l, hl⟩
        rw [hl]
        exact Fault.of_bind_ok.trans (hnotEqual value)
  exact hfold _ _ (hnotEqual .none)

theorem mapProperty_isPlainField (h : p.metadata.IsPlain) {property : PropertyAccessNode}
    {mapped : Node × PropertyMetadataInfo}
    (hmapped : mapProperty p.metadata true property = .ok mapped) :
    mapped.1.isPlainField = true := by
  rcases mapProperty_eq_ok hmapped with ⟨path, dataType, hpath, _, _⟩
  rw [hpath] at hmapped
  cases hknown : p.metadata.isKnown path with
  | true =>
      rcases mapProperty_known h hknown dataType true with ⟨fields, info, heq, hplain⟩
      rw [heq] at hmapped
      cases hmapped
      exact hplain
  | false =>
      rw [mapProperty_unknown h hknown] at hmapped
      cases hmapped

/-- The condition for a mapped query has the first fault of the filter. -/
theorem Visits.fault (h : p.metadata.IsPlain) {x : Node} {m : Mapped}
    (hvisits : Visits p.rt p.metadata x m) (hparsed : x.isParsed = true) :
    Fault.of builderHandles (p.buildMapped m.1) = filterFault x := by
  induction hvisits with
  | parenthesis _ ih =>
      rw [Node.isParsed] at hparsed
      exact ih hparsed
  | @logical _ _ op l r _ _ ihleft ihright =>
      rw [Node.isParsed] at hparsed
      rcases Bool.and_eq_true_iff.mp hparsed with ⟨hleft, hright⟩
      rw [filterFault, ← ihleft hleft, ← ihright hright]
      rcases l with ⟨_ | left, _⟩
      · rfl
      · rcases r with ⟨_ | right, _⟩
        · exact (Option.or_none).symm
        · show Fault.of builderHandles (p.buildSqlFilter (.logical left op right)) = _
          rw [Provider.buildSqlFilter]
          apply Fault.of_bind
          intro text _
          cases op with
          | and => exact Fault.of_bind_ok
          | or => exact Fault.of_bind_ok
  | @mappedComparison property op second mapped hmapped =>
      have hplain := mapProperty_isPlainField h hmapped
      have hhas := (isPlainOperand_of_isPlainField hplain).2
      rw [Node.isParsed] at hparsed
      have hsecond := (Bool.and_eq_true_iff.mp hparsed).2
      rw [filterFault]
      have hfirst : forall fault, comparisonFault mapped.1 op second none fault =
          comparisonFault (.propertyAccess property) op second none fault := by
        intro fault
        have htype : dataTypeFault mapped.1 second =
            dataTypeFault (.propertyAccess property) second := by
          have hdata : hasDataType mapped.1 = true := by
            cases hx : mapped.1 with
            | propertyAccess _ => rfl
            | multipleFields _ _ => rfl
            | _ =>
                rw [hx] at hhas
                cases hhas
          unfold dataTypeFault
          rw [hdata]
          rfl
        cases op with
        | isIn =>
            simp only [comparisonFault, htype, inOperandFault, hhas]
            rfl
        | _ => rfl
      rw [← hfirst]
      have hmodified := modified_modifyComparisonNode p.rt mapped.1 op second mapped.2
      generalize modifyComparisonNode p.rt mapped.1 op second mapped.2 = x at hmodified
      cases hmodified with
      | rewritten heq _ _ _ hrewritten =>
          rw [heq, fault_rewritten hplain hrewritten]
          exact (comparisonFault_constant mapped.1 op _ hhas).symm
      | kept _ =>
          show Fault.of builderHandles (p.buildSqlFilter _) = _
          rw [fault_comparison hplain,
            fault_buildSqlFilter h _ (isParsed_canonicalOperand p.rt op mapped.2 hsecond)]
          exact comparisonFault_canonicalOperand p.rt mapped.1 second op mapped.2 none
  | @comparison first second op hfirst =>
      show Fault.of builderHandles (p.buildSqlFilter _) = _
      rw [fault_buildSqlFilter h _ hparsed]
      cases first with
      | propertyAccess _ => cases hfirst
      | _ => rfl
  | property hmapped => exact fault_truthiness (mapProperty_isPlainField h hmapped) _
  | @hasProperty property mapped hmapped =>
      rw [Node.isParsed] at hparsed
      rcases mapProperty_has h hparsed with ⟨_, heq, hkind⟩
      rw [hmapped] at heq
      cases heq
      apply fault_visitUnaryHas h
      rcases hkind with hplain | hraw
      · exact (isPlainOperand_of_isPlainField hplain).1
      · rw [hraw]
        exact isPlainOperand_of_isParsed hparsed
  | @unary op operand m hop hoperand ih =>
      rw [Node.isParsed] at hparsed
      have hinner := ih hparsed
      have hmapped := hoperand.mapped_isHasOperand
      rcases m with ⟨visited, fields⟩
      cases op with
      | neg => cases visited <;> rfl
      | not =>
          rw [filterFault, ← hinner]
          cases visited with
          | none => rfl
          | some y => exact Fault.of_bind_ok
      | has =>
          cases visited with
          | none => rfl
          | some y =>
              have hy := hmapped y rfl
              cases y with
              | propertyAccess _ => cases hy
              | multipleFields _ _ => cases hy
              | _ => rfl
  | constant => rfl

theorem fault_mapPropsInAst (h : p.metadata.IsPlain) {x : Node} (hparsed : x.isParsed = true) :
    Fault.of mapperHandles (mapPropsInAst p.rt p.metadata x) = mapFault p.metadata x := by
  unfold mapPropsInAst
  rw [Fault.of_bind_ok]
  exact fault_visitNodes h x hparsed

theorem mapQuery_of_error {x : Node} {e : PyException}
    (h : mapPropsInAst p.rt p.metadata x = .error e) :
    exists failure, p.mapQuery x = .error failure ∧
      (failure = .raised e <-> mapperHandles e = false) ∧
      forall e', failure = .raised e' -> e' = e := by
  unfold Provider.mapQuery
  rw [h]
  cases e <;> exact ⟨_, rfl, by simp [mapperHandles], by simp [eq_comm]⟩

theorem buildQuery_raises_iff {x : Node} :
    (exists e, p.buildQuery x = .error (.raised e)) <->
      Fault.of builderHandles (p.buildSqlFilter x) = some .escapes := by
  unfold Provider.buildQuery
  cases p.buildSqlFilter x with
  | ok sql => simp [Fault.of]
  | error e => cases e <;> simp [Fault.of, builderHandles]

/-- A query raises something else where its first fault escapes the handlers. -/
theorem convertQuery_raises_iff (h : p.metadata.IsPlain) {cel : String} {originalQuery : Node}
    (hparsed : originalQuery.isParsed = true) :
    (exists e, p.convertQuery cel originalQuery = .error (.raised e)) <->
      isBooleanFilterNode originalQuery = true ∧
        queryFault p.metadata originalQuery = some .escapes := by
  unfold Provider.convertQuery
  split
  · rename_i hboolean
    have hmap := fault_mapPropsInAst h hparsed
    unfold queryFault
    rw [← hmap]
    cases hresult : mapPropsInAst p.rt p.metadata originalQuery with
    | error e =>
        rcases mapQuery_of_error hresult with ⟨failure, hfailure, hraised, honly⟩
        rw [hfailure]
        simp only [Fault.of, Option.some_or]
        constructor
        · rintro ⟨e', he'⟩
          have heq := Except.error.inj he'
          have hhandles := hraised.mp (honly e' heq ▸ heq)
          exact ⟨hboolean, by rw [hhandles]; rfl⟩
        · rintro ⟨_, hescapes⟩
          cases hhandles : mapperHandles e with
          | true =>
              rw [hhandles] at hescapes
              cases hescapes
          | false => exact ⟨e, by rw [hraised.mpr hhandles]; rfl⟩
    | ok m =>
        rcases visits_of_mapPropsInAst hresult with ⟨fields, hvisits, _⟩
        have hfilter := hvisits.fault h hparsed
        have hquery : p.mapQuery originalQuery = .ok m := by
          unfold Provider.mapQuery
          rw [hresult]
        rw [hquery]
        rcases m with ⟨_ | mapped, involved⟩
        · rw [← hfilter]
          simp [Fault.of, Provider.buildMapped, bind, Except.bind]
        · rw [← hfilter]
          have hbuild := buildQuery_raises_iff (p := p) (x := mapped)
          constructor
          · rintro ⟨e, he⟩
            cases hsql : p.buildQuery mapped with
            | ok sql =>
                simp only [bind, Except.bind, hsql] at he
                cases he
            | error failure =>
                simp only [bind, Except.bind, hsql] at he
                cases he
                exact ⟨hboolean, hbuild.mp ⟨e, hsql⟩⟩
          · rintro ⟨_, hescapes⟩
            rcases hbuild.mpr hescapes with ⟨e, he⟩
            refine ⟨e, ?_⟩
            simp only [bind, Except.bind, he]
  · rename_i hboolean
    simp [hboolean]

/-- What ends the conversion of an expression is a result or a `CelToSqlException`, and its
validation ends with a verdict. -/
structure Provider.Reports (p : Provider) (celpy : Celpy) (cel : String) : Prop where
  converts : forall e, p.convertToSqlStr celpy cel ≠ .error (.raised e)
  verdict : exists verdict, p.validateAlertFilterCel celpy (some cel) = .ok verdict

/-- A filter on alerts is reported exactly where its first fault is an unknown field or an
unsupported node of the condition. -/
theorem reports_iff {celpy : Celpy} {cel : String} {tree : Tree .expr}
    (hmetadata : p.metadata = alertMetadata) (hparse : celpy.parse cel = .ok tree) :
    p.Reports celpy cel <->
      (cel ≠ "" -> forall originalQuery, convertToAst p.rt tree = .ok originalQuery ->
        isBooleanFilterNode originalQuery = true ->
          queryFault alertMetadata originalQuery ≠ some .escapes) := by
  have hplain : p.metadata.IsPlain := hmetadata ▸ isPlain_alertMetadata
  constructor
  · intro hreports hcel originalQuery hast hboolean hescapes
    have hraises : (exists e, p.convertQuery cel originalQuery = .error (.raised e)) <-> _ :=
      convertQuery_raises_iff hplain (isParsed_convertToAst hast)
    rcases hraises.mpr ⟨hboolean, hmetadata ▸ hescapes⟩ with ⟨e, he⟩
    exact hreports.converts e ((Provider.convertToSqlStr_of_parse hcel hparse hast).trans he)
  · intro hqueries
    have hconverts : forall e, p.convertToSqlStr celpy cel ≠ .error (.raised e) := by
      intro e he
      rcases Classical.em (cel = "") with hempty | hcel
      · unfold Provider.convertToSqlStr at he
        rw [if_pos hempty] at he
        cases he
      · cases hast : convertToAst p.rt tree with
        | error failure =>
            unfold Provider.convertToSqlStr at he
            rw [if_neg hcel, hparse] at he
            simp only [hast] at he
            cases he
        | ok originalQuery =>
            rw [Provider.convertToSqlStr_of_parse hcel hparse hast] at he
            rcases (convertQuery_raises_iff hplain (isParsed_convertToAst hast)).mp ⟨e, he⟩ with
              ⟨hboolean, hescapes⟩
            exact hqueries hcel originalQuery hast hboolean (hmetadata ▸ hescapes)
    refine ⟨hconverts, ?_⟩
    unfold Provider.validateAlertFilterCel
    simp only
    split
    · exact ⟨_, rfl⟩
    · cases hresult : p.convertToSqlStr celpy cel with
      | ok result => exact ⟨_, rfl⟩
      | error failure =>
          cases failure with
          | rejected e => exact ⟨_, rfl⟩
          | raised e => exact (hconverts e hresult).elim

end Query

namespace ReportedFailuresSample

open FieldMappingConfiguration (column)

def provider : Provider := ⟨asciiRuntime, .postgresql, id, alertMetadata⟩

def identifier (name : String) : Tree .addition :=
  .additionOne (.multiplicationOne (.unaryOne (.memberPrimary (.ident name))))

/-- `name in service` -/
def tree : Tree .expr :=
  .ofRelation (.relation .isIn (.relationOne (identifier "name")) (identifier "service"))

def celpy : Celpy where
  parse := fun _ => .ok tree
  str := fun _ => ""

def query : Node := .comparison (simpleNode ["name"]) .isIn (simpleNode ["service"])

theorem provider_metadata : provider.metadata = alertMetadata := rfl

theorem parse_tree : celpy.parse "name in service" = .ok tree := rfl

theorem convertToAst_tree : convertToAst asciiRuntime tree = .ok query := rfl

theorem isKnown_name : alertMetadata.isKnown ["name"] = true := by
  have hmem : column "name" "alert.name" .string ∈ alertFieldConfigurations :=
    List.mem_append_right _ (List.mem_append_right _ (List.mem_map.mpr
      ⟨("name", .string), by simp [alertColumns], rfl⟩))
  have hkey : getPropertyPathStr ["name"] = getPropertyPathStr (extractFields "name") := by
    decide +kernel
  have hstar :
      (column "name" "alert.name" .string).mapFromPattern.toList.contains '*' = false := by
    decide
  have hknown := PropertiesMetadata.known_of_mem hmem hstar
  unfold PropertiesMetadata.isKnown alertMetadata
  rw [hkey]
  exact hknown

theorem queryFault_query : queryFault alertMetadata query = some .escapes := by
  have hmap : mapFault alertMetadata query = none := by
    show (if alertMetadata.isKnown ["name"] = true then none else some Fault.handled) = none
    rw [isKnown_name]
    rfl
  unfold queryFault
  rw [hmap]
  rfl

end ReportedFailuresSample

open ReportedFailuresSample in
theorem reports_iff_memberOfField :
    provider.Reports celpy "name in service" <->
      ("name in service" ≠ "" -> forall originalQuery,
        convertToAst provider.rt tree = .ok originalQuery ->
          isBooleanFilterNode originalQuery = true ->
            queryFault alertMetadata originalQuery ≠ some .escapes) :=
  reports_iff provider_metadata parse_tree

open ReportedFailuresSample in
/-- A membership test in something that is no list of constants ends with an
`AttributeError`. -/
theorem memberOfField_not_reported :
    ¬ forall (p : Provider) (celpy : Celpy) (cel : String) (tree : Tree .expr),
      p.metadata = alertMetadata -> celpy.parse cel = .ok tree -> p.Reports celpy cel := by
  intro h
  have hreports := h provider celpy "name in service" tree provider_metadata parse_tree
  have hplain : provider.metadata.IsPlain := by
    rw [provider_metadata]
    exact isPlain_alertMetadata
  have hescapes : queryFault provider.metadata query = some .escapes := by
    rw [provider_metadata]
    exact queryFault_query
  have hraises : exists e, provider.convertQuery "name in service" query = .error (.raised e) :=
    (convertQuery_raises_iff hplain (isParsed_convertToAst convertToAst_tree)).mpr
      ⟨rfl, hescapes⟩
  rcases hraises with ⟨e, he⟩
  have hconvert : provider.convertToSqlStr celpy "name in service" =
      provider.convertQuery "name in service" query :=
    Provider.convertToSqlStr_of_parse (by decide) parse_tree convertToAst_tree
  exact hreports.converts e (hconvert.trans he)

end Cel
end KeepGateway
