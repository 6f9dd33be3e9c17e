import KeepGateway.Cel.PropertiesMetadata

/-!
# The properties mapper

`PropertiesMapper` replaces the property paths of a parsed tree by the columns
they are mapped to, and rewrites order comparisons on enumerated fields.
-/

namespace KeepGateway
namespace Cel

/-!
## Enumerated values
-/

def canonicalizeEnumValue (rt : Runtime) (enumValues : List String) : Value -> Value
  | .str s =>
      match enumValues.find? fun enumValue => rt.lower enumValue = rt.lower s with
      | some enumValue => .str enumValue
      | none => .str s
  | value => value

def canonicalizeEnumItem (rt : Runtime) (enumValues : List String) : Node -> Node
  | .constant value => .constant (canonicalizeEnumValue rt enumValues value)
  | item => item

def canonicalizeEnumOperand (rt : Runtime) (enumValues : List String) : Node -> Node
  | .constant value => .constant (canonicalizeEnumValue rt enumValues value)
  | .list items => .list (items.map (canonicalizeEnumItem rt enumValues))
  | secondOperand => secondOperand

def ComparisonNodeOperator.canonicalizesEnums : ComparisonNodeOperator -> Bool
  | .contains => false
  | .startsWith => false
  | .endsWith => false
  | _ => true

/-- The position of a constant among the enumerated values, all of them strings. -/
def enumIndex (enumValues : List String) : Value -> Option Nat
  | .str s => enumValues.idxOf? s
  | _ => none

def enumConstants (enumValues : List String) : Node :=
  .list (enumValues.map fun item => .constant (.str item))

def inEnum (firstOperand : Node) (enumValues : List String) : Node :=
  .comparison firstOperand .isIn (enumConstants enumValues)

def notInEnum (firstOperand : Node) (enumValues : List String) : Node :=
  .unary .not (inEnum firstOperand enumValues)

/-- The rewriting of an order comparison; the other operators are kept.  `none`
stands for a comparison that every row meets. -/
def rewriteEnumOrder (firstOperand : Node) (op : ComparisonNodeOperator) (value : Value)
    (enumValues : List String) : Option Node :=
  match op, enumIndex enumValues value with
  | .lt, none => some (notInEnum firstOperand enumValues)
  | .le, none => some (notInEnum firstOperand enumValues)
  | .gt, none => some (inEnum firstOperand enumValues)
  | .ge, none => some (inEnum firstOperand enumValues)
  | .lt, some index => some (notInEnum firstOperand (enumValues.drop index))
  | .le, some index =>
      if enumValues.length <= index + 1 then none
      else some (notInEnum firstOperand (enumValues.drop (index + 1)))
  | .gt, some index =>
      if enumValues.length <= index + 1 then some (.constant (.bool false))
      else some (inEnum firstOperand (enumValues.drop (index + 1)))
  | .ge, some index => some (inEnum firstOperand (enumValues.drop index))
  | op, _ => some (.comparison firstOperand op (.constant value))

def modifyComparisonNode (rt : Runtime) (firstOperand : Node) (op : ComparisonNodeOperator)
    (secondOperand : Node) (mapping : PropertyMetadataInfo) : Option Node :=
  let secondOperand :=
    if mapping.enumValues ≠ [] ∧ op.canonicalizesEnums = true then
      canonicalizeEnumOperand rt mapping.enumValues secondOperand
    else secondOperand
  match secondOperand with
  | .constant value =>
      if mapping.enumValues ≠ [] then
        rewriteEnumOrder firstOperand op value mapping.enumValues
      else some (.comparison firstOperand op secondOperand)
  | _ => some (.comparison firstOperand op secondOperand)

/-!
## Properties
-/

def createPropertyAccessNode (dataType : Option DataType) :
    FieldMapping -> PropertyAccessNode
  | .json jsonProp propInJson => .json jsonProp propInJson dataType
  | .simple mapTo => .simple [mapTo] dataType

/-- One column stands for itself, several become a node of their own. -/
def mappedFields (info : PropertyMetadataInfo) : Except PyException Node :=
  match info.fieldMappings.map (createPropertyAccessNode info.dataType) with
  | [] => .error .indexError
  | [field] => .ok (.propertyAccess field)
  | fields => .ok (.multipleFields fields info.dataType)

/-- A field without a configuration, where no exception is wanted. -/
def unmappedInfo (joinedPath : String) : PropertyMetadataInfo where
  fieldName := joinedPath
  fieldMappings := [.simple joinedPath]
  enumValues := []
  dataType := none

def missingMapping (joinedPath : String) : PyException :=
  .propertiesMappingException
    ("Missing mapping configuration for property \"" ++ joinedPath ++ "\"")

/-- `_map_property`; a JSON property has no path. -/
def mapProperty (metadata : PropertiesMetadata) (throwMappingError : Bool) :
    PropertyAccessNode -> Except PyException (Node × PropertyMetadataInfo)
  | .json _ _ _ => .error .typeError
  | .simple path dataType => do
      match <- metadata.getPropertyMetadata path with
      | some info => do
          let fields <- mappedFields info
          .ok (fields, info)
      | none =>
          let joinedPath := ".".intercalate path
          if throwMappingError then .error (missingMapping joinedPath)
          else .ok (.propertyAccess (.simple path dataType), unmappedInfo joinedPath)

/-- The constants that a truthiness test excludes, after `null`. -/
def falsyValues : Option DataType -> List Value
  | some .boolean => [.bool false]
  | some .integer => [.int 0]
  | some .float => [.int 0]
  | _ => [.str "0", .str ""]

def notEqual (mappedProp : Node) (value : Value) : Node :=
  .comparison mappedProp .ne (.constant value)

/-- A property that stands alone is tested like `!!property`. -/
def truthiness (mappedProp : Node) (info : PropertyMetadataInfo) : Node :=
  (falsyValues info.dataType).foldl
    (fun filter falsy => .logical filter .and (notEqual mappedProp falsy))
    (notEqual mappedProp .none)

/-!
## The visit
-/

def Node.typeName : Node -> String
  | .constant _ => "ConstantNode"
  | .parenthesis _ => "ParenthesisNode"
  | .logical _ _ _ => "LogicalNode"
  | .comparison _ _ _ => "ComparisonNode"
  | .unary _ _ => "UnaryNode"
  | .propertyAccess (.simple _ _) => "PropertyAccessNode"
  | .propertyAccess (.json _ _ _) => "JsonPropertyAccessNode"
  | .multipleFields _ _ => "MultipleFieldsNode"
  | .node => "Node"
  | .none => "NoneType"
  | .list _ => "list"
  | .dict _ _ _ => "dict"
  | .str _ => "str"

def notSupported (x : Node) : PyException :=
  .notImplementedError (x.typeName ++ " node type is not supported yet")

/-- The mapped tree, `none` where nothing is left to filter, and the involved
fields in the order they were appended. -/
abbrev Mapped := Option Node × List PropertyMetadataInfo

def joinLogical (left : Option Node) (op : LogicalNodeOperator) (right : Option Node) :
    Option Node :=
  match left, right with
  | none, right => right
  | left, none => left
  | some left, some right => some (.logical left op right)

/-- A dropped operand is read as true. -/
def joinUnary (op : UnaryNodeOperator) : Option Node -> Node
  | none => .unary op (.constant (.bool true))
  | some operand => .unary op operand

def visitNodes (rt : Runtime) (metadata : PropertiesMetadata) :
    Node -> Except PyException Mapped
  | .parenthesis expression => visitNodes rt metadata expression
  | .logical left op right => do
      let left <- visitNodes rt metadata left
      let right <- visitNodes rt metadata right
      .ok (joinLogical left.1 op right.1, left.2 ++ right.2)
  | .comparison (.propertyAccess property) op secondOperand => do
      let mapped <- mapProperty metadata true property
      .ok (modifyComparisonNode rt mapped.1 op secondOperand mapped.2, [mapped.2])
  | .comparison firstOperand op secondOperand =>
      .ok (some (.comparison firstOperand op secondOperand), [])
  | .propertyAccess property => do
      let mapped <- mapProperty metadata true property
      .ok (some (truthiness mapped.1 mapped.2), [mapped.2])
  | .unary .has (.propertyAccess property) => do
      let mapped <- mapProperty metadata false property
      .ok (some (.unary .has mapped.1), [mapped.2])
  | .unary op operand => do
      let visited <- visitNodes rt metadata operand
      -- An operand that is kept is visited a second time.
      let again := if visited.1.isSome then visited.2 else []
      .ok (some (joinUnary op visited.1), visited.2 ++ again)
  | .constant value => .ok (some (.constant value), [])
  | x => .error (notSupported x)

/-- The last information of each field, at the place of its first. -/
def distinctFields (fields : List PropertyMetadataInfo) : List PropertyMetadataInfo :=
  (fields.foldl (fun acc field => Dict.set field.fieldName field acc) []).map Prod.snd

def mapPropsInAst (rt : Runtime) (metadata : PropertiesMetadata) (abstractNode : Node) :
    Except PyException Mapped := do
  let mapped <- visitNodes rt metadata abstractNode
  .ok (mapped.1, distinctFields mapped.2)

end Cel
end KeepGateway
