import KeepGateway.Cel.CelToSql
import KeepGateway.Lib.Except
import KeepGateway.Lib.SqlConditions

/-!
# Filters as conditions

The conditions that the providers write for mapped filters over plain columns, before they
are put into text.  Their text is the one that the providers build.
-/

namespace KeepGateway
namespace Cel

open Sql

/-!
## Columns
-/

def PropertyAccessNode.columnText : PropertyAccessNode -> Option String
  | .simple path _ => some (".".intercalate path)
  | .json _ _ _ => none

/-- A column, or several of which the first that is not NULL counts. -/
def scalarOf : Node -> Option Scalar
  | .propertyAccess property =>
      (property.columnText.filter fun text => text != "").map .column
  | .multipleFields fields _ =>
      match fields.mapM PropertyAccessNode.columnText with
      | some (first :: second :: rest) => some (.coalesce (first :: second :: rest))
      | _ => none
  | _ => none

def Node.fieldsType : Node -> Option DataType
  | .propertyAccess property => property.dataType
  | .multipleFields _ dataType => dataType
  | _ => Option.none

def Node.isSingleField : Node -> Bool
  | .propertyAccess _ => true
  | _ => false

/-- A list holds constants. -/
def Node.hasConstantItems : Node -> Prop
  | .list items => exists values : List Value, items = values.map .constant
  | _ => True

namespace Provider

variable (p : Provider)

/-!
## Casts
-/

/-- `cast` as an expression on its operand. -/
def castFunction (toType : Option DataType) : Option Function :=
  match toType, p.dialect with
  | some .boolean, .postgresql =>
      some (.caseWhen
        [(⟨"LOWER(", ") = 'true'"⟩, .literal "true"),
          (⟨"LOWER(", ") = 'false'"⟩, .literal "false"),
          (⟨"", " ~ '^[-+]?[0-9]*\\.?[0-9]+$'"⟩, .test ⟨"CAST(", " AS FLOAT) >= 1"⟩),
          (⟨"LOWER(", ") != ''"⟩, .literal "true")]
        "false")
  | some .boolean, _ =>
      some (.caseWhen
        [(⟨"LOWER(", ") = 'true'"⟩, .literal "TRUE"),
          (⟨"LOWER(", ") = 'false'"⟩, .literal "FALSE"),
          (⟨"CAST(", " AS SIGNED) >= 1"⟩, .literal "TRUE"),
          (⟨"CAST(", " AS SIGNED) <= 1"⟩, .literal "FALSE"),
          (⟨"", " != ''"⟩, .literal "TRUE")]
        "FALSE")
  | _, .mysql => some .same
  | some .null, _ => some .same
  | some .string, .postgresql => some (.around ⟨"(", ")::TEXT"⟩)
  | some .integer, .postgresql => some (.around ⟨"(", ")::FLOAT"⟩)
  | some .float, .postgresql => some (.around ⟨"(", ")::FLOAT"⟩)
  | some .datetime, .postgresql => some (.around ⟨"(", ")::TIMESTAMP"⟩)
  | some .string, .sqlite => some (.around ⟨"CAST(", " as TEXT)"⟩)
  | some .integer, .sqlite => some (.around ⟨"CAST(", " as REAL)"⟩)
  | some .float, .sqlite => some (.around ⟨"CAST(", " as REAL)"⟩)
  | some .datetime, .sqlite => some .same
  | _, _ => none

/-- A field without a type is cast to that of the constant. -/
def comparisonCast (first : Node) (value : Value) : Option Function :=
  if first.fieldsType.isNone then p.castFunction (some (fromTypeToDataType value))
  else some .same

/-!
## Comparisons
-/

def operatorText : ComparisonNodeOperator -> String
  | .eq => " = "
  | .ne => " != "
  | op => orderText op

def comparisonFrame (first : Node) (op : ComparisonNodeOperator) (value : Value) : Frame :=
  ⟨"", operatorText op ++ p.visitConstantNode value first.fieldsType⟩

/-- A comparison with a constant. -/
def comparisonCondition (first : Node) (op : ComparisonNodeOperator) (value : Value) :
    Option Condition := do
  let scalar <- scalarOf first
  let function <- p.comparisonCast first value
  let operand := Scalar.apply function scalar
  if p.visitConstantNode value first.fieldsType = "NULL" then
    match op with
    | .eq => some (.isNull operand)
    | .ne => some (.isNotNull operand)
    | _ => none
  else some (.test (p.comparisonFrame first op value) operand)

def likeFrame (op : ComparisonNodeOperator) (value : Value) : Frame :=
  match p.dialect with
  | .postgresql => ⟨"", " ILIKE " ++ likePattern op (p.unquotedLiteral value)⟩
  | .mysql => ⟨"LOWER(", ") LIKE " ++ likePattern op (p.unquotedLiteral (p.lowerText value))⟩
  | .sqlite => ⟨"", " LIKE " ++ likePattern op (p.unquotedLiteral value)⟩

/-- A method call is guarded against NULL. -/
def methodCondition (first : Node) (op : ComparisonNodeOperator) (value : Value) :
    Option Condition :=
  (scalarOf first).map fun scalar =>
    .and (.isNotNull scalar) (.test (p.likeFrame op value) scalar)

/-!
## Lists
-/

/-- A single column is cast for a list of several types. -/
def inCast (first : Node) (target : Option DataType) : Option Function :=
  if first.isSingleField && target.isSome then p.castFunction target else some .same

def inFrame (first : Node) (items : List Node) : Frame :=
  ⟨"", " in (" ++
    ", ".intercalate ((constantsWithoutNone items).map fun value =>
      p.visitConstantNode value first.fieldsType) ++ ")"⟩

def inCondition (first : Node) (items : List Node) : Option Condition := do
  let scalar <- scalarOf first
  let target <- (castTo items).toOption
  let function <- p.inCast first target
  let operand := Scalar.apply function scalar
  match constantsWithoutNone items, isNoneFound items with
  | [], true => some (.isNull operand)
  | [], false => none
  | _, false => some (.test (p.inFrame first items) operand)
  | _, true => some (.paren (.or (.test (p.inFrame first items) operand) (.isNull operand)))

/-!
## Arrays
-/

/-- The text of a constant inside a JSON array. -/
def arrayItem (value : Value) : String :=
  let rendered := p.visitConstantNode value none
  if isQuotedBy '\'' rendered.toList then String.ofList (trimEnds rendered.toList) else rendered

def emptyArrayFrame : Frame :=
  match p.dialect with
  | .postgresql => ⟨"jsonb_array_length(", "::jsonb) = 0"⟩
  | .mysql => ⟨"JSON_LENGTH(", ") = 0"⟩
  | .sqlite => ⟨"", " = '[]'"⟩

/-- The test for an item that is null; SQLite has none. -/
def nullItemFrame : Option Frame :=
  match p.dialect with
  | .postgresql => some ⟨"", "::jsonb @> '[null]'"⟩
  | .mysql => some ⟨"JSON_CONTAINS(", ", '[null]')"⟩
  | .sqlite => none

def itemFrame (value : Value) : Frame :=
  match p.dialect with
  | .postgresql => ⟨"", "::jsonb @> '[\"" ++ p.arrayItem value ++ "\"]'"⟩
  | .mysql => ⟨"JSON_CONTAINS(", ", '[\"" ++ p.arrayItem value ++ "\"]')"⟩
  | .sqlite =>
      ⟨"(SELECT 1 FROM json_each(", ") as json_array WHERE json_array.value = '" ++
        String.ofList (trimEnds (p.visitConstantNode value none).toList) ++ "')"⟩

def arrayContainsNull (column : Scalar) : Condition :=
  match p.nullItemFrame with
  | some frame =>
      .paren (.or (.or (.test frame column) (.isNull column)) (.test p.emptyArrayFrame column))
  | none => .paren (.or (.isNull column) (.test p.emptyArrayFrame column))

/-- SQLite looks for the item in a subquery. -/
def arrayContains (column : Scalar) (value : Value) : Condition :=
  match p.dialect with
  | .sqlite => .subquery (p.itemFrame value) column
  | _ => .test (p.itemFrame value) column

/-- How a provider tells that a constant is null. -/
def isNullConstant (value : Value) : Bool :=
  match p.dialect with
  | .sqlite => value = .none
  | _ => p.visitConstantNode value none = "NULL"

def arrayEqualCondition (column : Scalar) (value : Value) : Condition :=
  if p.isNullConstant value then p.arrayContainsNull column else p.arrayContains column value

/-- The alternatives of a membership test in an array, one for each constant. -/
def arrayAlternatives (column : Scalar) : Condition -> List Node -> Option Condition
  | filter, [] => some filter
  | filter, .constant value :: rest =>
      arrayAlternatives column (.paren (.or filter (p.arrayEqualCondition column value))) rest
  | _, _ :: _ => none

/-- The subquery that looks for one of several items. -/
def itemsFrame (items : List Node) : Option Frame :=
  (p.visitIn jsonArrayValue (.error (notSupported jsonArrayValue)) items).toOption.map
    fun inOperation =>
      ⟨"(SELECT 1 FROM json_each(", ") as json_array WHERE " ++ inOperation ++ ")"⟩

/-- A membership test in an array; SQLite looks for the constants in a subquery. -/
def arrayInCondition (column : Scalar) (items : List Node) : Option Condition :=
  match p.dialect with
  | .sqlite => do
      let filter := Condition.subquery (<- p.itemsFrame items) column
      if isNoneFound items then
        some (.paren (.or (.or (.test p.emptyArrayFrame column) (.isNull column)) filter))
      else some filter
  | _ =>
      match items with
      | .constant value :: rest =>
          p.arrayAlternatives column (p.arrayEqualCondition column value) rest
      | _ => none

/-!
## Filters
-/

def arrayScalar (property : PropertyAccessNode) : Option Scalar :=
  scalarOf (.propertyAccess property)

/-- The condition of a comparison that is mapped to columns. -/
def leafCondition (first : Node) (op : ComparisonNodeOperator) (second : Node) :
    Option Condition :=
  match op, second with
  | .isIn, .list items =>
      match isArray first with
      | some property => do p.arrayInCondition (<- arrayScalar property) items
      | none => p.inCondition first items
  | .isIn, _ => none
  | .eq, .constant value =>
      match isArray first with
      | some property => do some (p.arrayEqualCondition (<- arrayScalar property) value)
      | none => p.comparisonCondition first .eq value
  | .contains, .constant value => p.methodCondition first .contains value
  | .startsWith, .constant value => p.methodCondition first .startsWith value
  | .endsWith, .constant value => p.methodCondition first .endsWith value
  | op, .constant value => p.comparisonCondition first op value
  | _, _ => none

/-- The condition of a mapped filter. -/
def sqlCondition : Node -> Option Condition
  | .parenthesis expression => (sqlCondition expression).map .paren
  | .logical left op right => do
      let left <- sqlCondition left
      let right <- sqlCondition right
      match op with
      | .and => some (.paren (.conj left right))
      | .or => some (.paren (.or left right))
  | .comparison first op second => p.leafCondition first op second
  | .unary .not operand => (sqlCondition operand).map fun c => .not (.paren c)
  | .constant (.bool b) => some (.constant b (p.boolExp b))
  | _ => none

/-!
## Text
-/

section Text

variable {p : Provider}

theorem cast_text {toType : Option DataType} {function : Function}
    (h : p.castFunction toType = some function) (e : String) :
    p.cast e toType = .ok (function.text e) := by
  rcases p with ⟨rt, dialect, escape, metadata⟩
  rcases toType with _ | dataType
  · cases dialect with
    | mysql =>
        cases h
        rfl
    | _ => cases h
  · cases dataType with
    | boolean =>
        cases dialect <;> cases h <;>
          simp [cast, castToBoolean, caseExp, Function.text, Branch.text, Frame.text]
    | _ => cases dialect <;> cases h <;> rfl

/-- Plain columns are rendered as they are. -/
theorem visitFields_of_columns {fields : List PropertyAccessNode} {columns : List String}
    (h : fields.mapM PropertyAccessNode.columnText = some columns) :
    fields.any PropertyAccessNode.isJson = false ∧
      fields.map p.visitPropertyAccessNode = columns := by
  induction fields generalizing columns with
  | nil =>
      cases h
      exact ⟨rfl, rfl⟩
  | cons field rest ih =>
      rw [List.mapM_cons] at h
      rcases Option.bind_eq_some_iff.mp h with ⟨text, htext, h⟩
      rcases Option.bind_eq_some_iff.mp h with ⟨texts, htexts, h⟩
      cases h
      cases field with
      | json _ _ _ => cases htext
      | simple path dataType =>
          cases htext
          rcases ih htexts with ⟨hjson, hmap⟩
          refine ⟨hjson, ?_⟩
          rw [List.map_cons, hmap]
          rfl

theorem visitMultipleFieldsNode_of_columns {fields : List PropertyAccessNode}
    {first second : String} {rest : List String}
    (h : fields.mapM PropertyAccessNode.columnText = some (first :: second :: rest)) :
    p.visitMultipleFieldsNode fields = (Scalar.coalesce (first :: second :: rest)).text := by
  rcases visitFields_of_columns (p := p) h with ⟨hjson, hmap⟩
  unfold visitMultipleFieldsNode
  simp only [hjson, Bool.false_and]
  show coalesce (fields.map p.visitPropertyAccessNode) = _
  rw [hmap]
  rfl

/-- What an expression on columns says of its operand. -/
inductive ScalarOf : Node -> Scalar -> Prop where
  | column {path : List String} {dataType : Option DataType} :
      ".".intercalate path ≠ "" ->
        ScalarOf (.propertyAccess (.simple path dataType)) (.column (".".intercalate path))
  | coalesce {fields : List PropertyAccessNode} {dataType : Option DataType}
      {first second : String} {rest : List String} :
      fields.mapM PropertyAccessNode.columnText = some (first :: second :: rest) ->
        ScalarOf (.multipleFields fields dataType) (.coalesce (first :: second :: rest))

theorem scalarOf_cases {x : Node} {scalar : Scalar} (h : scalarOf x = some scalar) :
    ScalarOf x scalar := by
  cases x with
  | propertyAccess property =>
      rcases Option.map_eq_some_iff.mp h with ⟨text, htext, hscalar⟩
      rcases Option.filter_eq_some_iff.mp htext with ⟨htext, hne⟩
      cases hscalar
      cases property with
      | json _ _ _ => cases htext
      | simple path dataType =>
          cases htext
          exact .column (bne_iff_ne.mp hne)
  | multipleFields fields dataType =>
      simp only [scalarOf] at h
      split at h
      · rename_i hcolumns
        cases h
        exact .coalesce hcolumns
      · cases h
  | _ => cases h

theorem buildSqlFilter_scalar {x : Node} {scalar : Scalar} (h : scalarOf x = some scalar) :
    p.buildSqlFilter x = .ok scalar.text := by
  cases scalarOf_cases h with
  | column hne =>
      rw [buildSqlFilter, nonEmptyText, if_neg]
      · rfl
      · exact hne
  | coalesce hcolumns =>
      rw [buildSqlFilter, visitMultipleFieldsNode_of_columns hcolumns, nonEmptyText, if_neg]
      intro hempty
      have hlength := congrArg String.length hempty
      simp [Scalar.text, String.length_append] at hlength

theorem firstOperandType_scalar {x : Node} {scalar : Scalar} (h : scalarOf x = some scalar) :
    firstOperandType x = .ok (x.fieldsType, false) := by
  cases scalarOf_cases h with
  | column _ => rfl
  | @coalesce fields _ _ _ _ hcolumns =>
      cases fields with
      | nil => cases hcolumns
      | cons field rest =>
          cases field with
          | simple _ _ => rfl
          | json _ _ _ =>
              rw [List.mapM_cons] at hcolumns
              rcases Option.bind_eq_some_iff.mp hcolumns with ⟨text, htext, _⟩
              cases htext

theorem castOperands_scalar {first : Node} {value : Value} {scalar : Scalar}
    {function : Function} (hscalar : scalarOf first = some scalar)
    (hcast : p.comparisonCast first value = some function)
    (builtSecond : Except PyException String) :
    p.castOperands first (.constant value) (p.buildSqlFilter first) builtSecond =
      .ok ((Scalar.apply function scalar).text,
        p.visitConstantNode value first.fieldsType) := by
  unfold castOperands
  rw [firstOperandType_scalar hscalar, buildSqlFilter_scalar hscalar]
  unfold comparisonCast at hcast
  simp only [bind, Except.bind, Bool.false_or]
  split at hcast
  · rename_i hnone
    rw [if_pos hnone, cast_text hcast]
    rfl
  · rename_i hnone
    rw [if_neg hnone]
    cases hcast
    rfl

theorem comparisonCondition_cases {first : Node} {op : ComparisonNodeOperator} {value : Value}
    {c : Condition} (h : p.comparisonCondition first op value = some c) :
    exists scalar function, scalarOf first = some scalar ∧
      p.comparisonCast first value = some function ∧
      ((p.visitConstantNode value first.fieldsType = "NULL" ∧
          (op = .eq ∧ c = .isNull (.apply function scalar) ∨
            op = .ne ∧ c = .isNotNull (.apply function scalar))) ∨
        (p.visitConstantNode value first.fieldsType ≠ "NULL" ∧
          c = .test (p.comparisonFrame first op value) (.apply function scalar))) := by
  rcases Option.bind_eq_some_iff.mp h with ⟨scalar, hscalar, h⟩
  rcases Option.bind_eq_some_iff.mp h with ⟨function, hfunction, h⟩
  refine ⟨scalar, function, hscalar, hfunction, ?_⟩
  split at h
  · rename_i hnull
    refine .inl ⟨hnull, ?_⟩
    cases op with
    | eq =>
        cases h
        exact .inl ⟨rfl, rfl⟩
    | ne =>
        cases h
        exact .inr ⟨rfl, rfl⟩
    | _ => cases h
  · rename_i hnull
    cases h
    exact .inr ⟨hnull, rfl⟩

/-- The operators whose operands are cast. -/
def isCastOperator : ComparisonNodeOperator -> Bool
  | .isIn => false
  | .contains => false
  | .startsWith => false
  | .endsWith => false
  | _ => true

/-- The text of a comparison that casts its operands. -/
def comparisonText (op : ComparisonNodeOperator) (first second : String) : String :=
  match op with
  | .eq => visitEqual first second
  | .ne => visitNotEqual first second
  | op => first ++ orderText op ++ second

theorem visitComparisonNode_cast {first second : Node} {op : ComparisonNodeOperator}
    {builtFirst builtSecond : Except PyException String} {texts : String × String}
    (hop : isCastOperator op = true) (harray : op = .eq -> isArray first = none)
    (h : p.castOperands first second builtFirst builtSecond = .ok texts) :
    p.visitComparisonNode first op second builtFirst builtSecond =
      .ok (comparisonText op texts.1 texts.2) := by
  cases op with
  | eq =>
      simp only [visitComparisonNode, harray rfl]
      rw [h]
      rfl
  | isIn => cases hop
  | contains => cases hop
  | startsWith => cases hop
  | endsWith => cases hop
  | _ =>
      simp only [visitComparisonNode]
      rw [h]
      rfl

theorem comparisonText_frame {first : Node} {op : ComparisonNodeOperator} {value : Value}
    (hnull : p.visitConstantNode value first.fieldsType ≠ "NULL") (operand : String) :
    comparisonText op operand (p.visitConstantNode value first.fieldsType) =
      (p.comparisonFrame first op value).text operand := by
  have hframe : (p.comparisonFrame first op value).text operand =
      operand ++ operatorText op ++ p.visitConstantNode value first.fieldsType := by
    simp only [comparisonFrame, Frame.text, String.empty_append, String.append_assoc]
  rw [hframe]
  cases op with
  | eq =>
      rw [comparisonText, visitEqual, if_neg hnull]
      rfl
  | ne =>
      rw [comparisonText, visitNotEqual, if_neg hnull]
      rfl
  | _ => rfl

theorem comparisonCondition_text {first : Node} {op : ComparisonNodeOperator} {value : Value}
    {c : Condition} (hop : isCastOperator op = true) (harray : op = .eq -> isArray first = none)
    (h : p.comparisonCondition first op value = some c)
    (builtSecond : Except PyException String) :
    p.visitComparisonNode first op (.constant value) (p.buildSqlFilter first) builtSecond =
      .ok c.text := by
  rcases comparisonCondition_cases h with ⟨scalar, function, hscalar, hcast, hc⟩
  rw [visitComparisonNode_cast hop harray (castOperands_scalar hscalar hcast builtSecond)]
  rcases hc with ⟨hnull, ⟨heq, hc⟩ | ⟨heq, hc⟩⟩ | ⟨hnull, hc⟩
  · rw [hc, heq, hnull]
    rfl
  · rw [hc, heq, hnull]
    rfl
  · rw [hc, comparisonText_frame hnull]
    rfl

theorem methodCondition_text {first : Node} {op : ComparisonNodeOperator} {value : Value}
    {c : Condition} (h : p.methodCondition first op value = some c) :
    exists text, p.buildSqlFilter first = .ok text ∧
      p.visitMethodCalling op text (.constant value) = .ok c.text := by
  rcases Option.map_eq_some_iff.mp h with ⟨scalar, hscalar, hc⟩
  refine ⟨scalar.text, buildSqlFilter_scalar hscalar, ?_⟩
  rw [← hc]
  unfold visitMethodCalling
  have hguard : " IS NOT NULL AND " = " IS NOT NULL" ++ " AND " := rfl
  simp only [itemValue, bind, Except.bind, Condition.text, likeFrame, hguard]
  cases p.dialect <;>
    simp only [Frame.text, String.empty_append, String.append_assoc]

/-!
## Text of membership tests
-/

theorem inOperand_scalar {first : Node} {scalar : Scalar} {target : Option DataType}
    {function : Function} (hscalar : scalarOf first = some scalar)
    (hcast : p.inCast first target = some function) (built : Except PyException String) :
    p.inOperand built target first = .ok (Scalar.apply function scalar).text := by
  unfold inCast at hcast
  cases scalarOf_cases hscalar with
  | column hne =>
      simp only [inOperand, Node.isSingleField, Bool.true_and] at hcast ⊢
      split at hcast
      · rename_i htarget
        rw [if_pos htarget, cast_text hcast]
        rfl
      · rename_i htarget
        rw [if_neg htarget]
        cases hcast
        rfl
  | coalesce hcolumns =>
      cases hcast
      simp only [inOperand, (visitFields_of_columns (p := p) hcolumns).1, Bool.false_and]
      show Except.ok (p.visitMultipleFieldsNode _) = _
      rw [visitMultipleFieldsNode_of_columns hcolumns]
      rfl

theorem getDataTypeToConvert_scalar {first : Node} {scalar : Scalar}
    (h : scalarOf first = some scalar) :
    getDataTypeToConvert first = .ok first.fieldsType := by
  cases scalarOf_cases h <;> rfl

theorem inCondition_cases {first : Node} {items : List Node} {c : Condition}
    (h : p.inCondition first items = some c) :
    exists scalar target function, scalarOf first = some scalar ∧ castTo items = .ok target ∧
      p.inCast first target = some function ∧
      (constantsWithoutNone items = [] ∧ isNoneFound items = true ∧
          c = .isNull (.apply function scalar) ∨
        constantsWithoutNone items ≠ [] ∧ isNoneFound items = false ∧
          c = .test (p.inFrame first items) (.apply function scalar) ∨
        constantsWithoutNone items ≠ [] ∧ isNoneFound items = true ∧
          c = .paren (.or (.test (p.inFrame first items) (.apply function scalar))
            (.isNull (.apply function scalar)))) := by
  rcases Option.bind_eq_some_iff.mp h with ⟨scalar, hscalar, h⟩
  rcases Option.bind_eq_some_iff.mp h with ⟨target, htarget, h⟩
  rcases Option.bind_eq_some_iff.mp h with ⟨function, hfunction, h⟩
  refine ⟨scalar, target, function, hscalar, toOption_eq_some.mp htarget, hfunction, ?_⟩
  cases hvalues : constantsWithoutNone items with
  | nil =>
      cases hnone : isNoneFound items with
      | true =>
          simp only [hvalues, hnone] at h
          cases h
          exact .inl ⟨rfl, rfl, rfl⟩
      | false =>
          simp only [hvalues, hnone] at h
          cases h
  | cons value rest =>
      cases hnone : isNoneFound items with
      | true =>
          simp only [hvalues, hnone] at h
          cases h
          exact .inr (.inr ⟨List.cons_ne_nil _ _, rfl, rfl⟩)
      | false =>
          simp only [hvalues, hnone] at h
          cases h
          exact .inr (.inl ⟨List.cons_ne_nil _ _, rfl, rfl⟩)

theorem inCondition_text {first : Node} {items : List Node} {c : Condition}
    (h : p.inCondition first items = some c) (built : Except PyException String) :
    p.visitIn first built items = .ok c.text := by
  rcases inCondition_cases h with ⟨scalar, target, function, hscalar, htarget, hcast, hc⟩
  have hlisted : (p.inFrame first items).text (Scalar.apply function scalar).text =
      (Scalar.apply function scalar).text ++ " in (" ++
        ", ".intercalate ((constantsWithoutNone items).map fun value =>
          p.visitConstantNode value first.fieldsType) ++ ")" := by
    simp only [inFrame, Frame.text, String.empty_append, String.append_assoc]
  unfold visitIn inQueries
  rw [htarget]
  simp only [bind, Except.bind]
  rw [inOperand_scalar hscalar hcast]
  simp only [getDataTypeToConvert_scalar hscalar]
  rcases hc with ⟨hvalues, hnone, hc⟩ | ⟨hvalues, hnone, hc⟩ | ⟨hvalues, hnone, hc⟩
  · rw [if_pos hvalues, hnone, hc]
    rfl
  · rw [if_neg hvalues, hnone, hc, Condition.text, hlisted]
    rfl
  · rw [if_neg hvalues, hnone, hc, Condition.text, Condition.text, Condition.text, hlisted]
    rfl

/-!
## Text of arrays
-/

theorem arrayScalar_cases {property : PropertyAccessNode} {column : Scalar}
    (h : arrayScalar property = some column) :
    column.text = p.visitPropertyAccessNode property := by
  cases scalarOf_cases h
  rfl

theorem arrayContainsNull_text (column : Scalar) :
    (p.arrayContainsNull column).text =
      match p.dialect with
      | .postgresql =>
          "(" ++ column.text ++ "::jsonb @> '[null]' OR " ++ column.text ++
            " IS NULL OR jsonb_array_length(" ++ column.text ++ "::jsonb) = 0)"
      | .mysql =>
          "(JSON_CONTAINS(" ++ column.text ++ ", '[null]') OR " ++ column.text ++
            " IS NULL OR JSON_LENGTH(" ++ column.text ++ ") = 0)"
      | .sqlite => "(" ++ column.text ++ " IS NULL OR " ++ column.text ++ " = '[]')" := by
  unfold arrayContainsNull nullItemFrame emptyArrayFrame
  cases p.dialect with
  | postgresql =>
      have hcontains : "::jsonb @> '[null]' OR " = "::jsonb @> '[null]'" ++ " OR " := rfl
      have hlength : " IS NULL OR jsonb_array_length(" =
          " IS NULL" ++ (" OR " ++ "jsonb_array_length(") := rfl
      have hclose : "::jsonb) = 0)" = "::jsonb) = 0" ++ ")" := rfl
      simp only [Condition.text, Frame.text, hcontains, hlength, hclose, String.empty_append,
        String.append_assoc]
  | mysql =>
      have hopen : "(JSON_CONTAINS(" = "(" ++ "JSON_CONTAINS(" := rfl
      have hcontains : ", '[null]') OR " = ", '[null]')" ++ " OR " := rfl
      have hlength : " IS NULL OR JSON_LENGTH(" = " IS NULL" ++ (" OR " ++ "JSON_LENGTH(") := rfl
      have hclose : ") = 0)" = ") = 0" ++ ")" := rfl
      simp only [Condition.text, Frame.text, hopen, hcontains, hlength, hclose,
        String.append_assoc]
  | sqlite =>
      have hnull : " IS NULL OR " = " IS NULL" ++ " OR " := rfl
      have hclose : " = '[]')" = " = '[]'" ++ ")" := rfl
      simp only [Condition.text, Frame.text, hnull, hclose, String.empty_append,
        String.append_assoc]

theorem arrayEqualCondition_text {property : PropertyAccessNode} {column : Scalar}
    (hcolumn : arrayScalar property = some column) (value : Value) :
    p.visitEqualForArrayDatatype property (.constant value) =
      .ok (p.arrayEqualCondition column value).text := by
  unfold arrayEqualCondition isNullConstant
  simp only [visitEqualForArrayDatatype, ← arrayScalar_cases (p := p) hcolumn]
  have hnull := arrayContainsNull_text (p := p) column
  cases hdialect : p.dialect with
  | sqlite =>
      simp only [hdialect] at hnull ⊢
      split
      · rename_i hvalue
        rw [if_pos (decide_eq_true hvalue), hnull]
      · rename_i hvalue
        rw [if_neg (fun h => hvalue (of_decide_eq_true h)), arrayContains]
        simp only [itemFrame, hdialect, Condition.text, Frame.text, String.append_assoc]
  | postgresql =>
      simp only [hdialect] at hnull ⊢
      split
      · rename_i hvalue
        rw [if_pos (decide_eq_true hvalue), hnull]
      · rename_i hvalue
        rw [if_neg (fun h => hvalue (of_decide_eq_true h)), arrayContains]
        simp only [itemFrame, hdialect, Condition.text, Frame.text, String.empty_append,
          String.append_assoc]
        rfl
  | mysql =>
      simp only [hdialect] at hnull ⊢
      split
      · rename_i hvalue
        rw [if_pos (decide_eq_true hvalue), hnull]
      · rename_i hvalue
        rw [if_neg (fun h => hvalue (of_decide_eq_true h)), arrayContains]
        simp only [itemFrame, hdialect, Condition.text, Frame.text, String.append_assoc]
        rfl

theorem arrayAlternatives_text {property : PropertyAccessNode} {column : Scalar}
    (hcolumn : arrayScalar property = some column) {items : List Node} {filter c : Condition}
    (h : p.arrayAlternatives column filter items = some c) :
    items.foldlM
      (fun filter item => do
        let current <- p.visitEqualForArrayDatatype property item
        .ok (visitLogicalOr filter current))
      filter.text = .ok c.text := by
  induction items generalizing filter with
  | nil =>
      cases h
      rfl
  | cons item rest ih =>
      cases item with
      | constant value =>
          rw [List.foldlM_cons, arrayEqualCondition_text hcolumn]
          exact ih h
      | _ => cases h

theorem isNoneInList_of_constants {items : List Node} {values : List Value}
    (h : items = values.map .constant) : isNoneInList items = .ok (isNoneFound items) := by
  subst h
  induction values with
  | nil => rfl
  | cons value rest ih =>
      cases value with
      | none => rfl
      | _ => exact ih

theorem arrayInCondition_text {property : PropertyAccessNode} {column : Scalar}
    (hcolumn : arrayScalar property = some column) {items : List Node} {values : List Value}
    (hitems : items = values.map .constant) {c : Condition}
    (h : p.arrayInCondition column items = some c) :
    p.visitInForArrayDatatype property items = .ok c.text := by
  unfold arrayInCondition at h
  unfold visitInForArrayDatatype
  cases hdialect : p.dialect with
  | sqlite =>
      simp only [hdialect] at h ⊢
      rcases Option.bind_eq_some_iff.mp h with ⟨frame, hframe, h⟩
      rcases Option.map_eq_some_iff.mp hframe with ⟨inOperation, hin, hframe⟩
      rw [toOption_eq_some.mp hin, isNoneInList_of_constants hitems]
      simp only [bind, Except.bind, ← arrayScalar_cases (p := p) hcolumn]
      rw [← hframe] at h
      have hempty : " = '[]' OR " = " = '[]'" ++ " OR " := rfl
      have hnull : " IS NULL OR " = " IS NULL" ++ " OR " := rfl
      split at h
      · rename_i hnone
        cases h
        rw [if_pos hnone]
        simp only [Condition.text, Frame.text, emptyArrayFrame, hdialect, hempty, hnull,
          String.empty_append, String.append_assoc]
      · rename_i hnone
        cases h
        rw [if_neg hnone]
        simp only [Condition.text, Frame.text, String.append_assoc]
  | _ =>
      simp only [hdialect] at h ⊢
      cases items with
      | nil => cases h
      | cons item rest =>
          cases item with
          | constant value =>
              simp only at h ⊢
              rw [arrayEqualCondition_text hcolumn]
              exact arrayAlternatives_text hcolumn h
          | _ => cases h

/-!
## Text of filters
-/

theorem leafCondition_text {first second : Node} {op : ComparisonNodeOperator} {c : Condition}
    (hsecond : Node.hasConstantItems second) (h : p.leafCondition first op second = some c) :
    p.buildSqlFilter (.comparison first op second) = .ok c.text := by
  rw [buildSqlFilter]
  have hmethod : forall (op : ComparisonNodeOperator) (value : Value),
      p.methodCondition first op value = some c ->
        (do
          let text <- p.buildSqlFilter first
          let _ <- p.buildSqlFilter (.constant value)
          p.visitMethodCalling op text (.constant value)) = .ok c.text := by
    intro op value hcondition
    rcases methodCondition_text hcondition with ⟨text, htext, hcall⟩
    rw [htext]
    exact hcall
  cases second with
  | constant value =>
      cases op with
      | isIn => cases h
      | eq =>
          simp only [leafCondition] at h
          split at h
          · rename_i property harray
            rcases Option.bind_eq_some_iff.mp h with ⟨column, hcolumn, h⟩
            cases h
            simp only [visitComparisonNode, harray]
            exact arrayEqualCondition_text hcolumn value
          · rename_i harray
            exact comparisonCondition_text rfl (fun _ => harray) h _
      | contains => exact hmethod .contains value h
      | startsWith => exact hmethod .startsWith value h
      | endsWith => exact hmethod .endsWith value h
      | _ => exact comparisonCondition_text rfl (fun hop => by cases hop) h _
  | list items =>
      cases op with
      | isIn =>
          cases harray : isArray first with
          | some property =>
              simp only [leafCondition, harray] at h
              simp only [visitComparisonNode, asArray, harray]
              rcases Option.bind_eq_some_iff.mp h with ⟨column, hcolumn, h⟩
              rcases hsecond with ⟨values, hvalues⟩
              exact arrayInCondition_text hcolumn hvalues h
          | none =>
              simp only [leafCondition, harray] at h
              simp only [visitComparisonNode, asArray, harray]
              exact inCondition_text h _
      | _ => cases h
  | _ => cases op <;> cases h

/-- The lists of a mapped filter hold constants. -/
def HasConstantLists : Node -> Prop
  | .parenthesis expression => HasConstantLists expression
  | .logical left _ right => HasConstantLists left ∧ HasConstantLists right
  | .comparison _ _ second => Node.hasConstantItems second
  | .unary _ operand => HasConstantLists operand
  | _ => True

/-- The text of a condition is what the provider builds. -/
theorem sqlCondition_text {x : Node} (hlists : HasConstantLists x) {c : Condition}
    (h : p.sqlCondition x = some c) : p.buildSqlFilter x = .ok c.text := by
  induction x using sqlCondition.induct generalizing c with
  | case1 expression ih =>
      rw [sqlCondition] at h
      rcases Option.map_eq_some_iff.mp h with ⟨inner, hinner, hc⟩
      rw [buildSqlFilter, ih hlists hinner, ← hc]
      rfl
  | case2 left op right ihleft ihright =>
      rw [sqlCondition] at h
      rcases Option.bind_eq_some_iff.mp h with ⟨l, hl, h⟩
      rcases Option.bind_eq_some_iff.mp h with ⟨r, hr, h⟩
      rw [buildSqlFilter, ihleft hlists.1 hl, ihright hlists.2 hr]
      cases op with
      | and =>
          cases h
          show Except.ok (visitLogicalAnd l.text r.text) = _
          rw [Condition.text, Condition.text_conj]
          simp only [visitLogicalAnd, String.append_assoc]
      | or =>
          cases h
          show Except.ok (visitLogicalOr l.text r.text) = _
          simp only [Condition.text, visitLogicalOr, String.append_assoc]
  | case3 first op second =>
      rw [sqlCondition] at h
      exact leafCondition_text hlists h
  | case4 operand ih =>
      rw [sqlCondition] at h
      rcases Option.map_eq_some_iff.mp h with ⟨inner, hinner, hc⟩
      have hopen : "NOT (" = "NOT " ++ "(" := rfl
      rw [buildSqlFilter, ih hlists hinner, ← hc]
      simp only [bind, Except.bind, Condition.text, hopen, String.append_assoc]
  | case5 b =>
      rw [sqlCondition] at h
      cases h
      rfl
  | case6 x _ _ _ _ _ =>
      rw [sqlCondition] at h
      · cases h
      all_goals assumption

/-!
## Grouping
-/

/-- A condition that can stand as an operand of `AND` and `OR`. -/
def IsOperand (c : Condition) : Prop := 1 ≤ c.level ∧ c.Grouped

theorem isOperand_paren {c : Condition} (h : c.Grouped) : IsOperand (.paren c) :=
  ⟨Nat.le_of_ble_eq_true rfl, h⟩

theorem isOperand_arrayEqualCondition (column : Scalar) (value : Value) :
    IsOperand (p.arrayEqualCondition column value) := by
  unfold arrayEqualCondition
  split
  · unfold arrayContainsNull
    cases p.nullItemFrame <;>
      simp [IsOperand, Condition.level, Condition.Grouped]
  · unfold arrayContains
    cases p.dialect <;>
      simp [IsOperand, Condition.level, Condition.Grouped]

theorem isOperand_arrayAlternatives {column : Scalar} {items : List Node}
    {filter c : Condition} (hfilter : IsOperand filter)
    (h : p.arrayAlternatives column filter items = some c) : IsOperand c := by
  induction items generalizing filter with
  | nil =>
      cases h
      exact hfilter
  | cons item rest ih =>
      cases item with
      | constant value =>
          have hvalue := isOperand_arrayEqualCondition (p := p) column value
          have hgrouped : (Condition.or filter (p.arrayEqualCondition column value)).Grouped :=
            ⟨hfilter.2, hvalue⟩
          exact ih (isOperand_paren hgrouped) h
      | _ => cases h

theorem isOperand_leafCondition {first second : Node} {op : ComparisonNodeOperator}
    {c : Condition} (h : p.leafCondition first op second = some c) : IsOperand c := by
  have hcomparison : forall (op : ComparisonNodeOperator) (value : Value),
      p.comparisonCondition first op value = some c -> IsOperand c := by
    intro op value hcondition
    rcases comparisonCondition_cases hcondition with
      ⟨scalar, function, _, _, ⟨_, ⟨_, hc⟩ | ⟨_, hc⟩⟩ | ⟨_, hc⟩⟩ <;>
      rw [hc] <;> simp [IsOperand, Condition.level, Condition.Grouped]
  have hmethod : forall (op : ComparisonNodeOperator) (value : Value),
      p.methodCondition first op value = some c -> IsOperand c := by
    intro op value hcondition
    rcases Option.map_eq_some_iff.mp hcondition with ⟨scalar, _, hc⟩
    rw [← hc]
    simp [IsOperand, Condition.level, Condition.Grouped]
  cases second with
  | constant value =>
      cases op with
      | isIn => cases h
      | eq =>
          simp only [leafCondition] at h
          split at h
          · rcases Option.bind_eq_some_iff.mp h with ⟨column, _, h⟩
            cases h
            exact isOperand_arrayEqualCondition column value
          · exact hcomparison .eq value h
      | contains => exact hmethod .contains value h
      | startsWith => exact hmethod .startsWith value h
      | endsWith => exact hmethod .endsWith value h
      | _ => exact hcomparison _ value h
  | list items =>
      cases op with
      | isIn =>
          simp only [leafCondition] at h
          split at h
          · rcases Option.bind_eq_some_iff.mp h with ⟨column, _, h⟩
            unfold arrayInCondition at h
            split at h
            · rcases Option.bind_eq_some_iff.mp h with ⟨frame, _, h⟩
              split at h <;> cases h <;>
                simp [IsOperand, Condition.level, Condition.Grouped]
            · split at h
              · exact isOperand_arrayAlternatives (isOperand_arrayEqualCondition column _) h
              · cases h
          · rcases inCondition_cases h with
              ⟨_, _, _, _, _, _, ⟨_, _, hc⟩ | ⟨_, _, hc⟩ | ⟨_, _, hc⟩⟩ <;>
              rw [hc] <;> simp [IsOperand, Condition.level, Condition.Grouped]
      | _ => cases h
  | _ => cases op <;> cases h

/-- SQL groups the text of a filter as the condition is. -/
theorem isOperand_sqlCondition {x : Node} {c : Condition} (h : p.sqlCondition x = some c) :
    IsOperand c := by
  induction x using sqlCondition.induct generalizing c with
  | case1 expression ih =>
      rw [sqlCondition] at h
      rcases Option.map_eq_some_iff.mp h with ⟨inner, hinner, hc⟩
      rw [← hc]
      exact isOperand_paren (ih hinner).2
  | case2 left op right ihleft ihright =>
      rw [sqlCondition] at h
      rcases Option.bind_eq_some_iff.mp h with ⟨l, hl, h⟩
      rcases Option.bind_eq_some_iff.mp h with ⟨r, hr, h⟩
      cases op with
      | and =>
          cases h
          exact isOperand_paren (Condition.grouped_conj (ihleft hl) (ihright hr)).2
      | or =>
          cases h
          exact isOperand_paren ⟨(ihleft hl).2, ihright hr⟩
  | case3 first op second =>
      rw [sqlCondition] at h
      exact isOperand_leafCondition h
  | case4 operand ih =>
      rw [sqlCondition] at h
      rcases Option.map_eq_some_iff.mp h with ⟨inner, hinner, hc⟩
      rw [← hc]
      exact ⟨Nat.le_of_ble_eq_true rfl, Nat.le_of_ble_eq_true rfl, (ih hinner).2⟩
  | case5 b =>
      rw [sqlCondition] at h
      cases h
      exact ⟨Nat.le_of_ble_eq_true rfl, trivial⟩
  | case6 x _ _ _ _ _ =>
      rw [sqlCondition] at h
      · cases h
      all_goals assumption

end Text

end Provider

end Cel
end KeepGateway
