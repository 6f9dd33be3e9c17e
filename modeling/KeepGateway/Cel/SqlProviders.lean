import Mathlib.Algebra.GroupWithZero.Nat
import KeepGateway.Cel.CelAstConverter
import KeepGateway.Cel.PropertiesMapper

/-!
# The SQL providers

`sql_providers`: the rendering of a mapped tree as an SQL condition, for each of
the three dialects.
-/

namespace KeepGateway
namespace Cel

inductive Dialect where
  | postgresql
  | mysql
  | sqlite
  deriving DecidableEq, Repr

/-- A provider: `escape` is what the literal processor of its dialect puts between the
quotes. -/
structure Provider where
  rt : Runtime
  dialect : Dialect
  escape : String -> String
  metadata : PropertiesMetadata

/-!
## UUIDs

`UUID(text)` of the standard library.
-/

def hexDigit (rt : Runtime) (c : Char) : Option Nat :=
  match rt.decimal c with
  | some d => some d
  | none =>
      if 'a' ≤ c ∧ c ≤ 'f' then some (c.toNat - 'a'.toNat + 10)
      else if 'A' ≤ c ∧ c ≤ 'F' then some (c.toNat - 'A'.toNat + 10)
      else none

/-- The digits after the first; an underscore may stand between two of them. -/
def hexDigits (rt : Runtime) : Nat -> List Char -> Option Nat
  | acc, [] => some acc
  | acc, '_' :: c :: rest =>
      match hexDigit rt c with
      | some d => hexDigits rt (16 * acc + d) rest
      | none => none
  | acc, c :: rest =>
      match hexDigit rt c with
      | some d => hexDigits rt (16 * acc + d) rest
      | none => none

def unsignedHex (rt : Runtime) : List Char -> Option Nat
  | [] => none
  | c :: rest =>
      match hexDigit rt c with
      | some d => hexDigits rt d rest
      | none => none

/-- The digits after an optional `0x`, which an underscore may follow. -/
def prefixedHex (rt : Runtime) : List Char -> Option Nat
  | '0' :: x :: rest =>
      if x = 'x' ∨ x = 'X' then
        match rest with
        | '_' :: digits => unsignedHex rt digits
        | digits => unsignedHex rt digits
      else unsignedHex rt ('0' :: x :: rest)
  | cs => unsignedHex rt cs

/-- `int(text, 16)` of a text without `-`. -/
def hexNat (rt : Runtime) (cs : List Char) : Option Nat :=
  match strip rt cs with
  | '+' :: cs => prefixedHex rt cs
  | cs => prefixedHex rt cs

/-- `text.strip("{}")` -/
def stripBraces (cs : List Char) : List Char :=
  let brace := fun c => c == '\x7b' || c == '\x7d'
  ((cs.dropWhile brace).reverse.dropWhile brace).reverse

def parseUuid (rt : Runtime) (text : String) : Option Nat :=
  let cs := removeAll "urn:".toList text.toList.length text.toList
  let cs := removeAll "uuid:".toList cs.length cs
  let cs := (stripBraces cs).filter fun c => c != '-'
  if cs.length = 32 then (hexNat rt cs).filter fun n => n < 2 ^ 128 else none

/-- `UUID.hex` as a list of characters. -/
def uuidHex (uuid : Nat) : List Char :=
  (List.range 32).reverse.map fun i => (uuid / 16 ^ i % 16).digitChar

/-- `str(UUID)` -/
def uuidText (uuid : Nat) : List Char :=
  let hex := uuidHex uuid
  hex.take 8 ++ '-' :: (hex.drop 8).take 4 ++ '-' :: (hex.drop 12).take 4 ++
    '-' :: (hex.drop 16).take 4 ++ '-' :: hex.drop 20

def DataType.text : DataType -> String
  | .string => "DataType.STRING"
  | .uuid => "DataType.UUID"
  | .integer => "DataType.INTEGER"
  | .float => "DataType.FLOAT"
  | .datetime => "DataType.DATETIME"
  | .boolean => "DataType.BOOLEAN"
  | .object => "DataType.OBJECT"
  | .array => "DataType.ARRAY"
  | .null => "DataType.NULL"

namespace Provider

variable (p : Provider)

/-!
## Constants
-/

def literalProc : Value -> String
  | .str s => "'" ++ p.escape s ++ "'"
  | value => "'" ++ value.text ++ "'"

/-- `literal_proc(value)[1:-1]` -/
def unquotedLiteral (value : Value) : String :=
  String.ofList (trimEnds (p.literalProc value).toList)

/-- A UUID in the spelling that the database keeps. -/
def asUuid (value : Value) (expected : Option DataType) : Value :=
  if expected = some .uuid then
    match parseUuid p.rt value.text with
    | some uuid =>
        .str (String.ofList
          (match p.dialect with
          | .postgresql => uuidText uuid
          | .mysql => uuidHex uuid
          | .sqlite => uuidHex uuid))
    | none => value
  else value

def datetimeExp (d : DateTime) : String :=
  let date := p.literalProc (.str d.strftime)
  match p.dialect with
  | .postgresql => "CAST(" ++ date ++ " as TIMESTAMP)"
  | .mysql => "CAST(" ++ date ++ " as DATETIME)"
  | .sqlite => "datetime(" ++ date ++ ")"

def boolExp (b : Bool) : String :=
  match p.dialect, b with
  | .mysql, true => "TRUE"
  | .mysql, false => "FALSE"
  | _, true => "true"
  | _, false => "false"

def visitConstantNode (value : Value) (expected : Option DataType) : String :=
  match p.asUuid value expected with
  | .none => "NULL"
  | .bool b => p.boolExp b
  | .int n => toString n
  | .float r => r
  | .str s => p.literalProc (.str s)
  | .datetime d => p.datetimeExp d

/-!
## Columns
-/

/-- `".".join(f'"{item}"' for item in path)` -/
def quotedPath (path : List String) : String :=
  ".".intercalate (path.map fun item => "\"" ++ item ++ "\"")

def jsonExtractAsText (column : String) (path : List String) : String :=
  match p.dialect with
  | .postgresql =>
      let allColumns := column :: path.map fun item => "'" ++ item ++ "'"
      "(" ++ " -> ".intercalate allColumns.dropLast ++ ") ->> " ++ allColumns.getLastD ""
  | .mysql => "JSON_UNQUOTE(JSON_EXTRACT(" ++ column ++ ", '$." ++ quotedPath path ++ "'))"
  | .sqlite => "json_extract(" ++ column ++ ", '$." ++ quotedPath path ++ "')"

def jsonContainsPath (column : String) (path : List String) : Except PyException String :=
  match p.dialect with
  | .postgresql =>
      .ok ("JSONB_PATH_EXISTS(" ++ column ++ "::JSONB, '$." ++ quotedPath path ++ "')")
  | .mysql =>
      .ok ("JSON_CONTAINS_PATH(" ++ column ++ ", 'one', '$." ++ quotedPath path ++ "')")
  | .sqlite =>
      match path.getLast? with
      | none => .error .indexError
      | some keyName =>
          let source :=
            if path.length = 1 then column else p.jsonExtractAsText column path.dropLast
          .ok ("EXISTS (SELECT 1 FROM json_each(" ++ source ++ ") WHERE json_each.key = '" ++
            keyName ++ "')")

def visitPropertyAccessNode : PropertyAccessNode -> String
  | .simple path _ => ".".intercalate path
  | .json column path _ => p.jsonExtractAsText column path

def coalesce : List String -> String
  | [arg] => arg
  | args => "COALESCE(" ++ ", ".intercalate args ++ ")"

/-- Simple columns are cast where they stand beside JSON columns. -/
def visitMultipleFieldsNode (fields : List PropertyAccessNode) : String :=
  let hasJsonField := fields.any PropertyAccessNode.isJson
  coalesce (fields.map fun item =>
    let arg := p.visitPropertyAccessNode item
    if hasJsonField && !item.isJson then "CAST(" ++ arg ++ " AS TEXT)" else arg)

/-!
## Casts
-/

/-- The `CASE` expression of a cast to a Boolean. -/
def caseExp (conditions : List (String × String)) (otherwise : String) : String :=
  "CASE " ++ " ".intercalate (conditions.map fun c => "WHEN " ++ c.1 ++ " THEN " ++ c.2) ++
    " ELSE " ++ otherwise ++ " END"

def castToBoolean (e : String) : String :=
  match p.dialect with
  | .postgresql =>
      caseExp
        [("LOWER(" ++ e ++ ") = 'true'", "true"),
          ("LOWER(" ++ e ++ ") = 'false'", "false"),
          (e ++ " ~ '^[-+]?[0-9]*\\.?[0-9]+$'", "CAST(" ++ e ++ " AS FLOAT) >= 1"),
          ("LOWER(" ++ e ++ ") != ''", "true")]
        "false"
  | _ =>
      caseExp
        [("LOWER(" ++ e ++ ") = 'true'", "TRUE"),
          ("LOWER(" ++ e ++ ") = 'false'", "FALSE"),
          ("CAST(" ++ e ++ " AS SIGNED) >= 1", "TRUE"),
          ("CAST(" ++ e ++ " AS SIGNED) <= 1", "FALSE"),
          (e ++ " != ''", "TRUE")]
        "FALSE"

/-- The SQLite provider names the builtin `type`, not the type it was given. -/
def unsupportedType (toType : Option DataType) : PyException :=
  .valueError ("Unsupported type: " ++
    match p.dialect, toType with
    | .sqlite, _ => "<class 'type'>"
    | _, some dataType => DataType.text dataType
    | _, none => "None")

/-- `cast`, never forced. -/
def cast (e : String) (toType : Option DataType) : Except PyException String :=
  match toType, p.dialect with
  | some .boolean, _ => .ok (p.castToBoolean e)
  | _, .mysql => .ok e
  | some .null, _ => .ok e
  | some .string, .postgresql => .ok ("(" ++ e ++ ")::TEXT")
  | some .integer, .postgresql => .ok ("(" ++ e ++ ")::FLOAT")
  | some .float, .postgresql => .ok ("(" ++ e ++ ")::FLOAT")
  | some .datetime, .postgresql => .ok ("(" ++ e ++ ")::TIMESTAMP")
  | some .string, .sqlite => .ok ("CAST(" ++ e ++ " as TEXT)")
  | some .integer, .sqlite => .ok ("CAST(" ++ e ++ " as REAL)")
  | some .float, .sqlite => .ok ("CAST(" ++ e ++ " as REAL)")
  | some .datetime, .sqlite => .ok e
  | toType, _ => .error (p.unsupportedType toType)

/-!
## Comparisons
-/

def visitLogicalAnd (left right : String) : String := "(" ++ left ++ " AND " ++ right ++ ")"

def visitLogicalOr (left right : String) : String := "(" ++ left ++ " OR " ++ right ++ ")"

def visitEqual (first second : String) : String :=
  if second = "NULL" then first ++ " IS NULL" else first ++ " = " ++ second

def visitNotEqual (first second : String) : String :=
  if second = "NULL" then first ++ " IS NOT NULL" else first ++ " != " ++ second

/-- `item.value` -/
def itemValue : Node -> Except PyException Value
  | .constant value => .ok value
  | _ => .error .attributeError

/-- `isinstance(value, type(other))` -/
def isInstance : Value -> Value -> Bool
  | .none, .none => true
  | .bool _, .bool _ => true
  | .bool _, .int _ => true
  | .int _, .int _ => true
  | .float _, .float _ => true
  | .str _, .str _ => true
  | .datetime _, .datetime _ => true
  | _, _ => false

/-- The test of all items stops at the first that is of another type. -/
def allInstances (other : Value) : List Node -> Except PyException Bool
  | [] => .ok true
  | item :: rest => do
      let value <- itemValue item
      if isInstance value other then allInstances other rest else .ok false

/-- `cast_to`: a list of several types is compared as text. -/
def castTo : List Node -> Except PyException (Option DataType)
  | [] => .error .indexError
  | first :: rest => do
      let value <- itemValue first
      let same <- allInstances value (first :: rest)
      .ok (if same then none else some .string)

def constantsWithoutNone (array : List Node) : List Value :=
  array.filterMap fun
    | .constant .none => none
    | .constant value => some value
    | _ => none

def isNoneFound (array : List Node) : Bool :=
  array.any fun
    | .constant .none => true
    | _ => false

/-- `_get_data_type_to_convert` -/
def getDataTypeToConvert : Node -> Except PyException (Option DataType)
  | .propertyAccess property => .ok property.dataType
  | .multipleFields _ dataType => .ok dataType
  | .comparison first _ _ => getDataTypeToConvert first
  | x => .error (.notImplementedError ("Cannot find data type to convert for " ++ x.typeName ++
      " node"))

/-- The alternatives of an `in` over the text of its first operand. -/
def inQueries (text : String) (first : Node) (array : List Node) :
    Except PyException (List String) := do
  let values := constantsWithoutNone array
  let inQuery <-
    if values = [] then .ok []
    else do
      let dataType <- getDataTypeToConvert first
      .ok [text ++ " in (" ++
        ", ".intercalate (values.map fun value => p.visitConstantNode value dataType) ++ ")"]
  .ok (inQuery ++ if isNoneFound array then [visitEqual text "NULL"] else [])

def orQueries : List String -> String
  | [] => p.visitConstantNode (.bool false) none
  | query :: rest => rest.foldl visitLogicalOr query

/-- The text of the first operand of an `in`; `built` is its rendering as a filter. -/
def inOperand (built : Except PyException String) (target : Option DataType) :
    Node -> Except PyException String
  | .propertyAccess (.json column path dataType) =>
      let text := p.visitPropertyAccessNode (.json column path dataType)
      if dataType.isSome then p.cast text dataType else .ok text
  | .propertyAccess (.simple path dataType) =>
      let text := p.visitPropertyAccessNode (.simple path dataType)
      if target.isSome then p.cast text target else .ok text
  | .multipleFields fields dataType =>
      let text := p.visitMultipleFieldsNode fields
      if fields.any PropertyAccessNode.isJson && dataType.isSome then p.cast text dataType
      else .ok text
  | _ => built

def visitIn (first : Node) (built : Except PyException String) (array : List Node) :
    Except PyException String := do
  let target <- castTo array
  let text <- p.inOperand built target first
  let queries <- p.inQueries text first array
  .ok (p.orQueries queries)

/-- `_visit_equal_for_array_datatype` -/
def visitEqualForArrayDatatype (property : PropertyAccessNode) :
    Node -> Except PyException String
  | .constant value =>
      let prop := p.visitPropertyAccessNode property
      let rendered := p.visitConstantNode value none
      let stripped :=
        if isQuotedBy '\'' rendered.toList then String.ofList (trimEnds rendered.toList)
        else rendered
      .ok
        (match p.dialect with
        | .postgresql =>
            if rendered = "NULL" then
              "(" ++ prop ++ "::jsonb @> '[null]' OR " ++ prop ++
                " IS NULL OR jsonb_array_length(" ++ prop ++ "::jsonb) = 0)"
            else prop ++ "::jsonb @> '[\"" ++ stripped ++ "\"]'"
        | .mysql =>
            if rendered = "NULL" then
              "(JSON_CONTAINS(" ++ prop ++ ", '[null]') OR " ++ prop ++
                " IS NULL OR JSON_LENGTH(" ++ prop ++ ") = 0)"
            else "JSON_CONTAINS(" ++ prop ++ ", '[\"" ++ stripped ++ "\"]')"
        | .sqlite =>
            if value = .none then "(" ++ prop ++ " IS NULL OR " ++ prop ++ " = '[]')"
            else
              "(SELECT 1 FROM json_each(" ++ prop ++ ") as json_array WHERE json_array.value = '" ++
                String.ofList (trimEnds rendered.toList) ++ "')")
  | x => .error (.notImplementedError ("Array datatype comparison is not supported for " ++
      x.typeName ++ " node"))

/-- `next((True for item in array if item.value is None), False)` -/
def isNoneInList : List Node -> Except PyException Bool
  | [] => .ok false
  | item :: rest => do
      let value <- itemValue item
      if value = .none then .ok true else isNoneInList rest

def jsonArrayValue : Node := .propertyAccess (.simple ["json_array", "value"] none)

/-- `_visit_in_for_array_datatype` -/
def visitInForArrayDatatype (property : PropertyAccessNode) (array : List Node) :
    Except PyException String :=
  match p.dialect with
  | .sqlite => do
      let inOperation <- p.visitIn jsonArrayValue (.error (notSupported jsonArrayValue)) array
      let column := p.visitPropertyAccessNode property
      let arrayFilter :=
        "(SELECT 1 FROM json_each(" ++ column ++ ") as json_array WHERE " ++ inOperation ++ ")"
      let noneInList <- isNoneInList array
      .ok (if noneInList then
        "(" ++ column ++ " = '[]' OR " ++ column ++ " IS NULL OR " ++ arrayFilter ++ ")"
      else arrayFilter)
  | _ =>
      match array with
      | [] => .error (notSupported .none)
      | first :: rest => do
          let filter <- p.visitEqualForArrayDatatype property first
          rest.foldlM
            (fun filter item => do
              let current <- p.visitEqualForArrayDatatype property item
              .ok (visitLogicalOr filter current))
            filter

/-- The type that a constant of the second operand is rendered for, and whether the first
operand is cast in any case. -/
def firstOperandType : Node -> Except PyException (Option DataType × Bool)
  | .propertyAccess property => .ok (property.dataType, property.isJson)
  | .multipleFields fields dataType =>
      match fields with
      | [] => .error .indexError
      | field :: _ => .ok (dataType, field.isJson)
  | _ => .ok (none, false)

/-- Both operands of a comparison that casts, as text. -/
def castOperands (first second : Node) (builtFirst builtSecond : Except PyException String) :
    Except PyException (String × String) := do
  let (dataType, forceCast) <- firstOperandType first
  let firstText <- builtFirst
  match second with
  | .constant value => do
      let firstText <-
        if forceCast || dataType.isNone then
          p.cast firstText (some (fromTypeToDataType value))
        else .ok firstText
      .ok (firstText, p.visitConstantNode value dataType)
  | _ => do
      let secondText <- builtSecond
      let firstText <- if forceCast then p.cast firstText none else .ok firstText
      .ok (firstText, secondText)

/-- Which ends of the text a method leaves open. -/
def likePattern (op : ComparisonNodeOperator) (literal : String) : String :=
  match op with
  | .startsWith => "'" ++ literal ++ "%'"
  | .endsWith => "'%" ++ literal ++ "'"
  | _ => "'%" ++ literal ++ "%'"

def lowerText : Value -> Value
  | .str s => .str (p.rt.lower s)
  | value => value

/-- The three method calls, for their argument. -/
def visitMethodCalling (op : ComparisonNodeOperator) (propertyPath : String) (argument : Node) :
    Except PyException String := do
  let value <- itemValue argument
  let notNull := propertyPath ++ " IS NOT NULL AND "
  .ok
    (match p.dialect with
    | .postgresql =>
        notNull ++ propertyPath ++ " ILIKE " ++ likePattern op (p.unquotedLiteral value)
    | .mysql =>
        notNull ++ "LOWER(" ++ propertyPath ++ ") LIKE " ++
          likePattern op (p.unquotedLiteral (p.lowerText value))
    | .sqlite =>
        notNull ++ propertyPath ++ " LIKE " ++ likePattern op (p.unquotedLiteral value))

/-- What stands between the operands of an order comparison. -/
def orderText : ComparisonNodeOperator -> String
  | .gt => " > "
  | .ge => " >= "
  | .lt => " < "
  | _ => " <= "

/-- `second if isinstance(second, list) else [second]` -/
def asArray : Node -> List Node
  | .list items => items
  | x => [x]

def isArray : Node -> Option PropertyAccessNode
  | .propertyAccess property => if property.dataType = some .array then some property else none
  | _ => none

/-- `_visit_comparison_node`, over the renderings of both operands as filters. -/
def visitComparisonNode (first : Node) (op : ComparisonNodeOperator) (second : Node)
    (builtFirst builtSecond : Except PyException String) : Except PyException String :=
  match op with
  | .isIn =>
      match isArray first with
      | some property => p.visitInForArrayDatatype property (asArray second)
      | none => p.visitIn first builtFirst (asArray second)
  | .eq =>
      match isArray first with
      | some property => p.visitEqualForArrayDatatype property second
      | none => do
          let (firstText, secondText) <- p.castOperands first second builtFirst builtSecond
          .ok (visitEqual firstText secondText)
  | .ne => do
      let (firstText, secondText) <- p.castOperands first second builtFirst builtSecond
      .ok (visitNotEqual firstText secondText)
  | .contains | .startsWith | .endsWith => do
      let firstText <- builtFirst
      let _ <- builtSecond
      p.visitMethodCalling op firstText second
  | _ => do
      let (firstText, secondText) <- p.castOperands first second builtFirst builtSecond
      .ok (firstText ++ orderText op ++ secondText)

/-!
## Filters
-/

/-- `_visit_unary_has` on a column. -/
def visitHasProperty : PropertyAccessNode -> Except PyException String
  | .json column path _ => p.jsonContainsPath column path
  | .simple path _ => do
      let info <- p.metadata.getPropertyMetadata path
      .ok (if info.isSome then "TRUE" else "FALSE")

/-- `_visit_unary_has`; several columns are joined by OR. -/
def visitUnaryHas : Node -> Except PyException String
  | .propertyAccess property => p.visitHasProperty property
  | .multipleFields fields _ =>
      match fields with
      | [] => .error (notSupported .none)
      | first :: rest => do
          let filter <- p.visitHasProperty first
          rest.foldlM
            (fun filter field => do
              let current <- p.visitHasProperty field
              .ok (visitLogicalOr filter current))
            filter
  | _ => .ok "FALSE"

/-- `if result:`; the text of a column can be empty, no other can. -/
def nonEmptyText (x : Node) (text : String) : Except PyException String :=
  if text = "" then .error (notSupported x) else .ok text

/-- `_build_sql_filter` -/
def buildSqlFilter : Node -> Except PyException String
  | .parenthesis expression => do
      let text <- buildSqlFilter expression
      .ok ("(" ++ text ++ ")")
  | .logical left op right => do
      let left <- buildSqlFilter left
      let right <- buildSqlFilter right
      match op with
      | .and => .ok (visitLogicalAnd left right)
      | .or => .ok (visitLogicalOr left right)
  | .comparison first op second =>
      p.visitComparisonNode first op second (buildSqlFilter first) (buildSqlFilter second)
  | .propertyAccess property =>
      nonEmptyText (.propertyAccess property) (p.visitPropertyAccessNode property)
  | .unary .not operand => do
      let text <- buildSqlFilter operand
      .ok ("NOT (" ++ text ++ ")")
  | .unary .has operand => p.visitUnaryHas operand
  | .unary op _ =>
      .error (.notImplementedError (op.text ++ " unary operator is not supported yet"))
  | .constant value => .ok (p.visitConstantNode value none)
  | .multipleFields fields dataType =>
      nonEmptyText (.multipleFields fields dataType) (p.visitMultipleFieldsNode fields)
  | x => .error (notSupported x)

end Provider

end Cel
end KeepGateway
