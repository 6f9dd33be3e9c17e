import Mathlib.Data.List.Basic

/-!
# The CEL abstract syntax tree

The node classes of `ast_nodes.py` together with the property nodes that
`properties_mapper.py` adds.  Python keeps nodes and plain values in the
same variables, so the constructors after `node` are the raw values that a
field declared `Any`, or assigned without validation, can hold.
-/

namespace KeepGateway
namespace Cel

/-- The column types a field can declare. -/
inductive DataType where
  | string
  | uuid
  | integer
  | float
  | datetime
  | boolean
  | object
  | array
  | null
  deriving DecidableEq, Repr

/-- A `datetime`, as far as the converters look at it: its `str()` and
its `strftime("%Y-%m-%d %H:%M:%S")`. -/
structure DateTime where
  str : String
  strftime : String
  deriving DecidableEq, Repr

/-- The values a constant node carries.  A float is kept as its `repr`. -/
inductive Value where
  | none
  | bool (b : Bool)
  | int (n : Int)
  | float (repr : String)
  | str (s : String)
  | datetime (d : DateTime)
  deriving DecidableEq, Repr

inductive LogicalNodeOperator where
  | and
  | or
  deriving DecidableEq, Repr

inductive ComparisonNodeOperator where
  | lt
  | le
  | gt
  | ge
  | eq
  | ne
  | isIn
  | contains
  | startsWith
  | endsWith
  deriving DecidableEq, Repr

inductive UnaryNodeOperator where
  | not
  | neg
  | has
  deriving DecidableEq, Repr

/-- `PropertyAccessNode` and its subclass `JsonPropertyAccessNode`. -/
inductive PropertyAccessNode where
  | simple (path : List String) (dataType : Option DataType)
  | json (jsonPropertyName : String) (propertyToExtract : List String)
      (dataType : Option DataType)
  deriving DecidableEq, Repr

namespace PropertyAccessNode

def dataType : PropertyAccessNode -> Option DataType
  | simple _ dataType => dataType
  | json _ _ dataType => dataType

def isJson : PropertyAccessNode -> Bool
  | simple _ _ => false
  | json _ _ _ => true

end PropertyAccessNode

inductive Node where
  | constant (value : Value)
  | parenthesis (expression : Node)
  | logical (left : Node) (operator : LogicalNodeOperator) (right : Node)
  | comparison (firstOperand : Node) (operator : ComparisonNodeOperator)
      (secondOperand : Node)
  | unary (operator : UnaryNodeOperator) (operand : Node)
  | propertyAccess (property : PropertyAccessNode)
  | multipleFields (fields : List PropertyAccessNode) (dataType : Option DataType)
  | node
  | none
  | list (items : List Node)
  | dict (left : Node) (operator : String) (right : Node)
  | str (text : String)

/-- `PropertyAccessNode(path=path)` -/
def simpleNode (path : List String) : Node := .propertyAccess (.simple path none)

/-- The exceptions of the CEL pipeline below `CelToSqlException`. -/
inductive PyException where
  | indexError
  | keyError
  | typeError
  | attributeError
  | validationError
  | valueError (message : String)
  | notImplementedError (message : String)
  | propertiesMappingException (message : String)
  deriving DecidableEq, Repr

/-- What the pipeline takes from outside the repository: the Unicode tables and
the floats of Python, the date parser of `dateutil`, and the `repr` of
pydantic models inside lists and dicts. -/
structure Runtime where
  lower : String -> String
  decimal : Char -> Option Nat
  isSpace : Char -> Bool
  float : String -> Option String
  parse : String -> Option DateTime
  repr : Node -> String

/-- `str.lower()` on ASCII text. -/
def asciiLower (s : String) : String := String.ofList (s.toList.map Char.toLower)

/-- Python on ASCII text, where neither floats nor dates are recognised. -/
def asciiRuntime : Runtime where
  lower := asciiLower
  decimal c := if '0' ≤ c ∧ c ≤ '9' then some (c.toNat - '0'.toNat) else none
  isSpace c := c == ' '
  float _ := none
  parse _ := none
  repr _ := ""

/-!
## Filters

Whether a parsed tree yields a truth value, before any property is mapped.
-/

def isBooleanFilterNode : Node -> Bool
  | Node.parenthesis expression => isBooleanFilterNode expression
  | Node.logical left _ right => isBooleanFilterNode left && isBooleanFilterNode right
  | Node.unary UnaryNodeOperator.not operand => isBooleanFilterNode operand
  | Node.unary UnaryNodeOperator.has _ => true
  | Node.unary UnaryNodeOperator.neg _ => false
  | Node.comparison _ _ _ => true
  | Node.constant (Value.bool _) => true
  | Node.propertyAccess _ => true
  | _ => false

/-- `from_type_to_data_type` on the type of a constant. -/
def fromTypeToDataType : Value -> DataType
  | Value.str _ => DataType.string
  | Value.int _ => DataType.integer
  | Value.float _ => DataType.float
  | Value.bool _ => DataType.boolean
  | Value.none => DataType.null
  | Value.datetime _ => DataType.datetime

end Cel
end KeepGateway
